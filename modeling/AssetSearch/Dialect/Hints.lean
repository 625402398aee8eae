/-
# Example fragments

For every platform the fragments that are offered while a query is typed: one for each field that
is asked for often, ready to be inserted, with a description.
-/
import AssetSearch.Platform

namespace AssetSearch

/-- A fragment that can be inserted into a query. -/
structure Hint where
  /-- The fragment itself. -/
  label : String
  description : String
  deriving DecidableEq, Repr

namespace Platform

/-- The fragments for Hunter. -/
def hunterHints : List Hint := [
  ⟨"domain.suffix=\"test.com\"", "Domain suffix"⟩,
  ⟨"ip=\"1.1.1.1\"", "IP address"⟩,
  ⟨"web.title=\"登录\"", "Page title"⟩,
  ⟨"header=\"thinkphp\"", "HTTP header"⟩,
  ⟨"app.name=\"ThinkPHP\"", "Application framework"⟩,
  ⟨"port=\"3306\"", "Port"⟩,
  ⟨"status_code=\"200\"", "HTTP status code"⟩,
  ⟨"protocol=\"https\"", "Protocol"⟩,
  ⟨"ip.province=\"北京市\"", "Province"⟩,
  ⟨"ip.city=\"北京市\"", "City"⟩,
  ⟨"ip.country=\"中国\"", "Country"⟩,
  ⟨"web.body=\"login\"", "Page body"⟩,
  ⟨"cert=\"baidu\"", "Certificate"⟩,
  ⟨"banner=\"nginx\"", "Banner"⟩]

/-- The fragments for FOFA. -/
def fofaHints : List Hint := [
  ⟨"domain=\"test.com\"", "Domain"⟩,
  ⟨"ip=\"1.1.1.1\"", "IP address"⟩,
  ⟨"title=\"登录\"", "Page title"⟩,
  ⟨"header=\"nginx\"", "HTTP header"⟩,
  ⟨"server==\"Microsoft-IIS/10\"", "Server"⟩,
  ⟨"port=\"6379\"", "Port"⟩,
  ⟨"protocol=\"https\"", "Protocol"⟩,
  ⟨"country=\"CN\"", "Country"⟩,
  ⟨"region=\"Beijing\"", "Region"⟩,
  ⟨"city=\"Beijing\"", "City"⟩,
  ⟨"body=\"login\"", "Page body"⟩,
  ⟨"cert=\"baidu\"", "Certificate"⟩,
  ⟨"banner=\"nginx\"", "Banner"⟩]

/-- The fragments for Quake. -/
def quakeHints : List Hint := [
  ⟨"domain: test.com", "Domain"⟩,
  ⟨"ip: \"1.1.1.1\"", "IP address"⟩,
  ⟨"title: \"登录\"", "Page title"⟩,
  ⟨"response: \"nginx\"", "Response content"⟩,
  ⟨"service: \"IIS\"", "Service"⟩,
  ⟨"port: 3389", "Port"⟩,
  ⟨"protocol: \"https\"", "Protocol"⟩,
  ⟨"country: \"China\"", "Country"⟩,
  ⟨"province: \"Beijing\"", "Province"⟩,
  ⟨"city: \"Beijing\"", "City"⟩,
  ⟨"cert: \"baidu\"", "Certificate"⟩,
  ⟨"banner: \"nginx\"", "Banner"⟩]

/-- The fragments for DayDayMap. -/
def daydaymapHints : List Hint := [
  ⟨"domain:\"test.com\"", "Domain"⟩,
  ⟨"ip:\"1.1.1.1\"", "IP address"⟩,
  ⟨"ip:\"1.1.1.0/24\"", "IP range (CIDR)"⟩,
  ⟨"title:\"登录\"", "Page title"⟩,
  ⟨"server:\"nginx\"", "Server"⟩,
  ⟨"app:\"WordPress\"", "Application"⟩,
  ⟨"port:\"80\"", "Port"⟩,
  ⟨"protocol:\"https\"", "Protocol"⟩,
  ⟨"country:\"中国\"", "Country"⟩,
  ⟨"province:\"北京\"", "Province"⟩,
  ⟨"city:\"北京\"", "City"⟩,
  ⟨"body:\"login\"", "Page body"⟩,
  ⟨"cert:\"baidu\"", "Certificate"⟩,
  ⟨"banner:\"nginx\"", "Banner"⟩]

/-- The fragments of a platform, in the order in which they are offered. -/
def hints : Platform → List Hint
  | hunter => hunterHints
  | fofa => fofaHints
  | quake => quakeHints
  | daydaymap => daydaymapHints

end Platform

end AssetSearch
