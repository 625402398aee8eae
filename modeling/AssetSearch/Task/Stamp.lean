/-
# Ids of tasks

Tasks are named by a stamp: the time in milliseconds, or one more than the stamp before, whichever
is later.  So the stamps of one source always grow, whatever its clock does.

Key definitions: `Stamp.next`, `searchId`, `exportId` and `platformExportId`.
-/
import AssetSearch.Platform

namespace AssetSearch

/-- The stamp after `last` when the clock shows `reading`. -/
def Stamp.next (last : Nat) (reading : Int) : Nat :=
  max reading.toNat (last + 1)

namespace Task

/-- The id of a search. -/
def searchId (stamp : Nat) : String :=
  "search_" ++ toString stamp

/-- The id of an export. -/
def exportId (stamp : Nat) : String :=
  "export_" ++ toString stamp

/-- The id of the export of a past query. -/
def platformExportId (platform : Platform) (stamp : Nat) : String :=
  "export_" ++ platform.key ++ "_" ++ toString stamp

end Task

end AssetSearch
