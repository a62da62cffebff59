/-
Where the properties of a machine stand in its profile and in its snapshot. Neither has a fixed
form, so each property has a list of places in order of precedence.
-/
import Fleet.Json.Probe

namespace Fleet

open Json (Path)

/-! ## The profile -/

namespace Profile

/-- Where the hostname stands. -/
def hostname : List Path := [
  ["hostname"], ["profile", "hostname"], ["spec", "hostname"], ["machine", "hostname"],
  ["metadata", "name"], ["metadata", "labels", "hostname"],
  ["metadata", "annotations", "hostname"]]

/-- Where the display name stands. -/
def displayName : List Path := [
  ["display_name"], ["displayName"], ["name"], ["profile", "display_name"],
  ["profile", "displayName"], ["metadata", "annotations", "display_name"],
  ["metadata", "annotations", "displayName"]]

/-- Where the status set by an operator stands. -/
def status : List Path := [
  ["status"], ["profile", "status"], ["spec", "status"], ["machine", "status"],
  ["metadata", "labels", "status"]]

/-- Where the assigned blueprint stands. -/
def blueprint : List Path := [
  ["blueprint"], ["blueprint_name"], ["profile", "blueprint"], ["spec", "blueprint"],
  ["machine", "blueprint"], ["metadata", "labels", "blueprint"]]

/-- Where the operating system stands. -/
def os : List Path := [
  ["os"], ["os_name"], ["profile", "os"], ["spec", "os"], ["machine", "os"],
  ["metadata", "labels", "os"]]

/-- Where the site stands. -/
def site : List Path := [
  ["site"], ["location", "site"], ["profile", "site"], ["spec", "site"], ["machine", "site"],
  ["metadata", "labels", "site"]]

/-- Where the rack stands. -/
def rack : List Path := [
  ["rack"], ["location", "rack"], ["profile", "rack"], ["spec", "rack"], ["machine", "rack"],
  ["metadata", "labels", "rack"]]

/-- Where the position in the rack stands. -/
def position : List Path := [
  ["position"], ["rack_position"], ["location", "position"], ["profile", "position"],
  ["spec", "position"], ["metadata", "labels", "position"]]

/-- Where the owner stands. -/
def owner : List Path := [
  ["owner"], ["profile", "owner"], ["spec", "owner"], ["machine", "owner"],
  ["metadata", "labels", "owner"], ["metadata", "annotations", "owner"]]

/-- Where the notes stand. -/
def notes : List Path := [
  ["notes"], ["profile", "notes"], ["spec", "notes"], ["metadata", "annotations", "notes"]]

/-- Where the address stands. -/
def ip : List Path := [
  ["ip"], ["ip_address"], ["ipAddress"], ["network", "ip"], ["profile", "ip"], ["spec", "ip"],
  ["machine", "ip"], ["metadata", "annotations", "ip"]]

/-- Where the processor stands. -/
def cpu : List Path := [
  ["hardware", "cpu"], ["cpu"], ["cpu_model"], ["profile", "hardware", "cpu"],
  ["profile", "cpu"], ["spec", "hardware", "cpu"]]

/-- Where the memory stands as a text. -/
def memory : List Path := [
  ["hardware", "memory"], ["memory"], ["profile", "hardware", "memory"], ["profile", "memory"],
  ["spec", "hardware", "memory"]]

/-- Where the memory stands as a number of gigabytes, in a profile or a snapshot. -/
def memoryGigabytes : List Path := [
  ["memory_gb"], ["memoryGB"], ["hardware", "memory_gb"], ["hardware", "memoryGB"],
  ["profile", "memory_gb"], ["profile", "memoryGB"]]

/-- Where the storage stands. -/
def storage : List Path := [
  ["hardware", "storage"], ["storage"], ["disk"], ["profile", "hardware", "storage"],
  ["profile", "storage"], ["spec", "hardware", "storage"]]

/-- Where the address of the management controller stands. -/
def bmc : List Path := [
  ["hardware", "bmc"], ["bmc"], ["bmc_address"], ["ipmi", "address"],
  ["profile", "hardware", "bmc"], ["profile", "bmc"], ["spec", "bmc"]]

/-- Where lists of tags stand. -/
def tagLists : List Path := [["tags"], ["profile", "tags"]]

/-- Where the labels stand. -/
def labels : Path := ["metadata", "labels"]

/-- Where the list of network interfaces stands. -/
def interfaceLists : List Path := [
  ["interfaces"], ["profile", "interfaces"], ["spec", "interfaces"], ["network", "interfaces"]]

end Profile

/-! ## The snapshot -/

namespace Snapshot

/-- Where the hostname stands. -/
def hostname : List Path := [["hostname"], ["fqdn"]]

/-- Where the operating system stands. -/
def os : List Path := [["os"], ["os_name"], ["os_release"]]

/-- Where the address stands. -/
def ip : List Path := [["ip"], ["ip_address"], ["primary_ip"]]

/-- Where the processor stands. -/
def cpu : List Path := [["cpu"], ["cpu_model"]]

/-- Where the uptime stands in hours. -/
def uptimeHours : List Path := [["uptime_hours"], ["uptimeHours"]]

/-- Where the uptime stands in seconds. -/
def uptimeSeconds : List Path := [["uptime_seconds"], ["uptime"]]

end Snapshot

/-! ## A network interface -/

namespace Network

/-- The keys of the name in a list of interfaces. -/
def listedNames : List Path := [["name"], ["interface"]]

/-- The key of the name in a profile without such a list. -/
def soleNames : List Path := [["interface"]]

/-- Where the address stands. -/
def ipPlaces : List Path := [["ip"], ["address"], ["ipv4"]]

end Network

end Fleet
