/-
From listing entries to records. Every entry gives a record, whatever its profile and snapshot
hold: a property that cannot be found is left out, and a machine without any usable name is
called `unknown`.
-/
import Fleet.Machine.Facts
import Fleet.Machine.Item
import Fleet.Machine.Profile
import Fleet.Text.Order

namespace Fleet

open Text (nonBlank?)

/-! ## Single properties -/

/-- The hostname: from the profile, the snapshot, the hardware address, or the id. -/
def resolveHostname (machine : Machine) (profile snapshot : Json) : String :=
  ((profile.firstText? Profile.hostname).or
    ((snapshot.firstText? Snapshot.hostname).or
      ((nonBlank? machine.mac).or (nonBlank? machine.id)))).getD "unknown"

/-- The status: maintenance if the profile says so, else what the backend derived, else what the
profile says. -/
def resolveStatus (derived : Option String) (profile : Json) : MachineStatus :=
  let stated := (profile.firstText? Profile.status).map MachineStatus.classify
  if stated = some .maintenance then .maintenance
  else
    match derived.bind nonBlank? with
    | some raw => MachineStatus.classify raw
    | none => stated.getD .unknown

/-- The tags a label stands for: its trimmed key and its value, if that is a scalar. -/
def labelTag? (label : String × Json) : Option String :=
  label.2.scalarText?.map fun value => s!"{Text.trim label.1}:{value}"

/-- The tags: listed texts and labels, trimmed, each once and in order. -/
def resolveTags (profile : Json) : List String :=
  let listed := (Profile.tagLists.filterMap profile.at?).flatMap Json.texts
  let labels := ((profile.at? Profile.labels).bind Json.members?).getD []
  Text.ascending ((listed ++ labels.filterMap labelTag?).filterMap nonBlank?)

/-- A network interface; it has a name and a hardware address. -/
def Network.ofJson? (names : List Json.Path) (value : Json) : Option Network := do
  return {
    interface := ← value.firstText? names
    mac := ← value.firstText? [["mac"]]
    ip := value.firstText? ipPlaces
    vlan := (value.get? "vlan").bind Json.scalarText? }

/-- The network interfaces: those of the first list there is, else the one the profile itself
describes. -/
def resolveNetworks (profile : Json) : List Network :=
  match Profile.interfaceLists.findSome? fun path => (profile.at? path).bind Json.items? with
  | some entries => entries.filterMap (Network.ofJson? Network.listedNames)
  | none => (Network.ofJson? Network.soleNames profile).toList

/-- The address: from the profile, the first interface that has one, or the snapshot. -/
def resolveIp (profile snapshot : Json) (networks : List Network) : Option String :=
  (profile.firstText? Profile.ip).or
    ((networks.findSome? (·.ip)).or (snapshot.firstText? Snapshot.ip))

/-- The memory: a text of the profile, else a number of gigabytes. -/
def resolveMemory (profile snapshot : Json) : Option String :=
  (profile.firstText? Profile.memory).or
    (((profile.firstNumber? Profile.memoryGigabytes).or
      (snapshot.firstNumber? Profile.memoryGigabytes)).map fun gigabytes =>
        s!"{Layout.plain.text gigabytes} GB")

/-- The hardware. -/
def resolveHardware (profile snapshot : Json) : Hardware where
  cpu := (profile.firstText? Profile.cpu).or (snapshot.firstText? Snapshot.cpu)
  memory := resolveMemory profile snapshot
  storage := profile.firstText? Profile.storage
  bmc := profile.firstText? Profile.bmc

/-- The number of seconds in an hour. -/
def secondsPerHour : Option Binary64 := Binary64.ofInt? 3600

/-- The uptime in hours. -/
def resolveUptime (snapshot : Json) : Option Binary64 :=
  (snapshot.firstNumber? Snapshot.uptimeHours).or
    ((snapshot.firstNumber? Snapshot.uptimeSeconds).bind fun seconds =>
      secondsPerHour.bind seconds.div?)

/-- A run for display. -/
def Run.summary (run : Run) : RunSummary where
  id := run.id
  blueprint := nonBlank? run.blueprintId
  status := RunStatus.classify run.status
  startedAt := run.startedAt.bind nonBlank?
  finishedAt := run.finishedAt.bind nonBlank?

/-! ## The record -/

/-- The record of a listing entry. -/
def normalize (item : MachineItem) : MachineRecord :=
  let machine := item.machine
  let profile := machine.profile.getD .null
  let snapshot := (item.latestFact.bind (·.snapshot)).getD .null
  let networks := resolveNetworks profile
  let reportedAt := item.latestFact.bind fun fact => nonBlank? fact.createdAt
  { id := machine.id
    mac := machine.mac
    serial := machine.serial.bind nonBlank?
    hostname := resolveHostname machine profile snapshot
    displayName := profile.firstText? Profile.displayName
    status := resolveStatus item.status profile
    ip := resolveIp profile snapshot networks
    os := (profile.firstText? Profile.os).or (snapshot.firstText? Snapshot.os)
    blueprint := profile.firstText? Profile.blueprint
    site := profile.firstText? Profile.site
    rack := profile.firstText? Profile.rack
    position := profile.firstText? Profile.position
    owner := profile.firstText? Profile.owner
    notes := profile.firstText? Profile.notes
    tags := resolveTags profile
    lastCheckIn := reportedAt.or (nonBlank? machine.updatedAt)
    uptimeHours := resolveUptime snapshot
    hardware := resolveHardware profile snapshot
    networks := networks
    runs := (item.recentRuns.getD []).map Run.summary
    facts := factLines snapshot reportedAt }

end Fleet
