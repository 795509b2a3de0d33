import Mathlib
import Osdemo.Platform.Fdt
import Osdemo.Boot.Secondary
import Osdemo.Shell.ReadLine

/-!
Contract: one turn of the loop of `shell::main` once `read_line` has
returned, and the commands that take arguments: `alarm`, `sgi`, `start_cpu`
and `vcat`.

A command is modelled by what it does, in order: the lines it writes to the
console and the operations it makes on devices, and the panic that stops it,
if one does. Lines whose text the source spells out are kept as text; lines
that show a value through a library's `Display` or `Debug` (a time, an
interrupt ID, a hexadecimal CPU ID) keep the value. What the device-listing
commands print is read from the devices and is not modelled.

The library behaviour the commands rest on is taken from the libraries'
documentation: collecting more than four items into an `ArrayVec<_, 4>`
panics; chrono's `Duration::seconds` panics beyond `i64::MAX / 1000` seconds
either way and adding a duration to a `DateTime` panics outside the range of
`DateTime`; arm_pl031's `Rtc::set_match` returns `Err` for a time that is not
a `u32` number of seconds since the epoch. `start_cpu` takes PSCI's
`AFFINITY_INFO` to succeed, and allocates a core's stack on the shared heap
through `get_secondary_stack` of `Osdemo.Boot.Secondary`.

Owns:
- `Effect`, `Outcome`, the commands `alarm`, `sgi`, `startCpu` and `vcat`,
  `dispatch` and `shellTurn`;
- which argument lists each command rejects, what it touches first, and
  where it panics.
-/

namespace Osdemo.Shell

open Rust Osdemo.Platform

/-- A line a command writes to the console: a line whose text the source
spells out, `"Set alarm for {alarm_time}"` and `"{time}"` for a time in
seconds since the epoch, `"Sending {intid:?} to all CPUs"` for an SGI,
`"CPU {cpu_index}: ID {id:#012x}"`, `" already {state:?}"` for a core that is
not off, and `"{fdt}"`. -/
inductive ConsoleLine where
  | text (text : String)
  | setAlarm (time : Int)
  | time (time : Int)
  | sendingSgi (sgi : Nat)
  | cpuId (cpuIndex id : Nat)
  | alreadyOn
  | fdt
deriving DecidableEq, Repr

/-- An operation on a device, or on the firmware, made by a command:
`rtc.clear_interrupt()`, `GicCpuInterface::end_interrupt(RTC_IRQ, ...)`,
`rtc.get_time()`, the match register written by `rtc.set_match` with a
timestamp, `rtc.enable_interrupt(true)`,
`GicCpuInterface::send_sgi(IntId::sgi(sgi), SgiTarget::All, ...)`,
`psci::affinity_info(id, LowestAffinityLevel::All)`, PSCI `CPU_ON` for a core
with its stack and `arg` together with the line `" => {result:?}"` that
reports it, `vsock.connect(peer, 42)` with the session that follows until
the connection is shut down or reset, and `lsdev`, `lspci` and `cpus`, which
read devices and firmware and write what they find. -/
inductive DeviceOp where
  | rtcClearInterrupt
  | endRtcInterrupt
  | rtcGetTime
  | rtcSetMatch (timestamp : Nat)
  | rtcEnableInterrupt
  | sendSgi (sgi : Nat)
  | affinityInfo (id : Nat)
  | cpuOn (id arg stack : Nat)
  | vsockSession (cid port : Nat)
  | lsdev
  | lspci
  | cpus
deriving DecidableEq, Repr

/-- What a command can be seen to do. -/
inductive Effect where
  | write (line : ConsoleLine)
  | device (op : DeviceOp)
deriving DecidableEq, Repr

/-- The effect touches a device other than the console. -/
def Effect.touchesDevice : Effect → Bool
  | .write _ => false
  | .device _ => true

/-- What a command did: its effects in order, and the panic that stopped it,
if one did. The panic handler then powers the system off. -/
structure Outcome where
  effects : List Effect
  panic : Option Panic
deriving DecidableEq, Repr

/-- A command that writes `lines` and returns. -/
def Outcome.printed (lines : List String) : Outcome := ⟨lines.map (.write ∘ .text), none⟩

/-- `effects`, then what `outcome` does. -/
def Outcome.after (effects : List Effect) (outcome : Outcome) : Outcome :=
  ⟨effects ++ outcome.effects, outcome.panic⟩

/-- The command only wrote to the console: it touched no device and did not
panic. -/
def Outcome.OnlyWrites (outcome : Outcome) : Prop :=
  outcome.panic = none ∧ ∀ effect ∈ outcome.effects, effect.touchesDevice = false

instance (outcome : Outcome) : Decidable outcome.OnlyWrites :=
  inferInstanceAs (Decidable (_ ∧ _))

/-- `writeln!(console, "Usage:")`, then the form of the command. -/
def usage (form : String) : Outcome := Outcome.printed ["Usage:", form]

/-- The PL031 as the commands see it: its count of seconds since the epoch,
a `u32`. -/
structure Rtc where
  time : Nat
  time_lt : time < limit 32

/-- The devices and the state the commands read: the value `ALARM_FIRED`
holds, the RTC, how many vsock devices there are, the device tree, which
cores PSCI reports off, and `SECONDARY_STACKS` with the heap its stacks come
from and how the heap's allocator places blocks. -/
structure ShellDevices where
  alarmFired : Bool
  rtc : Rtc
  vsockCount : Nat
  fdt : Fdt
  cpuOff : Nat → Bool
  secondaryStacks : Boot.SecondaryStacks
  heapPolicy : FrameAllocator.AllocPolicy

/-- The timestamps, in seconds since the epoch, that chrono's `DateTime<Utc>`
can hold; they include every time the RTC can read. -/
structure DateTimeRange where
  min : Int
  max : Int
  min_nonpos : min ≤ 0
  max_ge : (limit 32 : Int) ≤ max

/-- `i64::MAX / 1000`. -/
def maxDurationSeconds : Nat := (limit 63 - 1) / 1000

/-- `Duration::seconds(delay)`. -/
def durationSeconds (delay : Int) : Except Panic Int :=
  if delay.natAbs ≤ maxDurationSeconds then .ok delay
  else .error (.explicit "TimeDelta::seconds out of bounds")

/-- `timestamp + duration` on a `DateTime<Utc>`. -/
def addDuration (range : DateTimeRange) (time duration : Int) : Except Panic Int :=
  if range.min ≤ time + duration ∧ time + duration ≤ range.max then .ok (time + duration)
  else .error (.explicit "`DateTime + TimeDelta` overflowed")

/-- `rtc.set_match(time).unwrap()`: the timestamp written to the match
register. -/
def setMatch (time : Int) : Except Panic Nat :=
  if 0 ≤ time ∧ time < limit 32 then .ok time.toNat else .error (.unwrapErr .tryFromIntError)

/-- `irq_finish(rtc)`, where `ALARM_FIRED.swap(false)` reads `alarmFired`. -/
def irqFinish (alarmFired : Bool) : List Effect :=
  if alarmFired then [.device .rtcClearInterrupt, .device .endRtcInterrupt] else []

/-- The end of `alarm`, once the delay has parsed: read the RTC, add the
delay, set the match and enable the interrupt. -/
def setAlarm (range : DateTimeRange) (rtc : Rtc) (delay : Int) : Outcome :=
  let matched := do
    let duration ← durationSeconds delay
    let alarmTime ← addDuration range rtc.time duration
    let timestamp ← setMatch alarmTime
    pure (alarmTime, timestamp)
  match matched with
  | .error panic => ⟨[.device .rtcGetTime], some panic⟩
  | .ok (alarmTime, timestamp) =>
      ⟨[.device .rtcGetTime, .device (.rtcSetMatch timestamp), .device .rtcEnableInterrupt,
        .write (.setAlarm alarmTime)], none⟩

/-- `alarm::alarm(console, args, rtc)`. The delay is an `i64`. -/
def alarm (range : DateTimeRange) (alarmFired : Bool) (rtc : Rtc) (args : List String) :
    Outcome :=
  Outcome.after (irqFinish alarmFired) <|
    match args with
    | [] => usage "  alarm <delay>"
    | delay :: _ =>
        match parseI64 delay with
        | none => Outcome.printed ["Invalid delay time"]
        | some delay => setAlarm range rtc delay

/-! ### `sgi` and `start_cpu` -/

/-- `IntId::SGI_COUNT`. -/
def sgiCount : Nat := 16

/-- `cpus::sgi(console, args)`. The ID is a `u32`. -/
def sgi (args : List String) : Outcome :=
  match args with
  | [] => usage "  sgi <id>"
  | id :: _ =>
      match parseU32 id with
      | none => Outcome.printed ["Invalid id"]
      | some id =>
          if sgiCount ≤ id then Outcome.printed [s!"Invalid SGI, must be less than {sgiCount}"]
          else ⟨[.write (.sendingSgi id.toNat), .device (.sendSgi id.toNat)], none⟩

/-- `psci::affinity_info(id, ...)`, then, for a core that is off,
`start_core_with_stack(id, ...)`: `get_secondary_stack` finds or allocates
the core's stack, which `start_core` hands to PSCI `CPU_ON`. -/
def startCore (devices : ShellDevices) (id arg : Nat) : Outcome :=
  if devices.cpuOff id then
    match Boot.SecondaryStacks.getSecondaryStack devices.heapPolicy devices.secondaryStacks
        (UInt64.ofNat id) with
    | .ok (stack, _) => ⟨[.device (.affinityInfo id), .device (.cpuOn id arg stack)], none⟩
    | .error panic => ⟨[.device (.affinityInfo id)], some panic⟩
  else ⟨[.device (.affinityInfo id), .write .alreadyOn], none⟩

/-- The end of `start_cpu`, once both arguments have parsed: find the CPU in
the device tree and start it. -/
def startCpuOn (devices : ShellDevices) (cpuIndex arg : Nat) : Outcome :=
  -- `fdt.cpus().unwrap().cpus().nth(cpu_index)`
  match devices.fdt.cpuIds with
  | none => ⟨[], some .unwrapNone⟩
  | some cpus =>
      match cpus[cpuIndex]? with
      | none => Outcome.printed ["cpu_index out of bounds"]
      -- `cpu.ids().unwrap().next().unwrap().to_int::<u64>().unwrap()`
      | some none => ⟨[], some (.unwrapErr .fdtError)⟩
      | some (some id) => (startCore devices id arg).after [.write (.cpuId cpuIndex id)]

/-- `cpus::start_cpu(console, fdt, args)`. `cpu_index` is a `usize` and `arg`
a `u64`. -/
def startCpu (devices : ShellDevices) (args : List String) : Outcome :=
  match args with
  | [] => usage "  start_cpu <cpu_index> <arg>"
  | cpuIndex :: rest =>
      match parseU64 cpuIndex with
      | none => Outcome.printed ["Invalid cpu_index"]
      | some cpuIndex =>
          match rest with
          | [] => usage "  start_cpu <cpu_index> <arg>"
          | arg :: _ =>
              match parseU64 arg with
              | none => Outcome.printed ["Invalid arg"]
              | some arg => startCpuOn devices cpuIndex.toNat arg.toNat

/-! ### `vcat` -/

/-- `vcat(console, args, vsock)`, with `vsockCount` vsock devices: `args` are
collected into an `ArrayVec<_, 4>` before their number is checked; the CID is
a `u64` and the port a `u32`. -/
def vcat (vsockCount : Nat) (args : List String) : Outcome :=
  match (ArrayVec.collect args : Option (ArrayVec String 4)) with
  | none => ⟨[], some .capacityExceeded⟩
  | some collected =>
      match collected.items with
      | [cid, port] =>
          match parseU64 cid with
          | none => Outcome.printed [s!"Invalid CID {cid}"]
          | some cid =>
              match parseU32 port with
              | none => Outcome.printed [s!"Invalid port {port}"]
              | some port =>
                  -- `vsock.get_mut(0)`
                  if vsockCount = 0 then Outcome.printed ["No vsock device found."]
                  else
                    ⟨[.write (.text s!"Connecting to {cid}:{port}..."),
                      .device (.vsockSession cid.toNat port.toNat)], none⟩
      | _ => usage "  vcat <CID> <port>"

/-! ### `shell::main` -/

/-- `help(console)`. -/
def help : Outcome := Outcome.printed [
  "Commands:",
  "  alarm - Sets an alarm in the future",
  "  cpus - Lists the state of all CPUs",
  "  date - Prints the current date and time",
  "  dtdump - Dumps the device tree to the console",
  "  exit - Exits the shell and powers off the system",
  "  help - Prints this help",
  "  sgi - Sends a software-generated interrupt",
  "  lsdev - Lists devices",
  "  lspci - Lists devices on the PCI bus",
  "  start_cpu - Starts a secondary CPU",
  "  vcat - Communicates with a vsock port"]

/-- The `match command` of `shell::main`, on the first piece of the line and
the pieces after it: `none` where the loop breaks (`exit`). -/
def runCommand (range : DateTimeRange) (devices : ShellDevices) (command : String)
    (args : List String) : Option Outcome :=
  match command with
  | "alarm" => some (alarm range devices.alarmFired devices.rtc args)
  | "date" => some ⟨[.device .rtcGetTime, .write (.time devices.rtc.time)], none⟩
  | "dtdump" => some ⟨[.write .fdt], none⟩
  | "exit" => none
  | "help" => some help
  | "sgi" => some (sgi args)
  | "lsdev" => some ⟨[.device .lsdev], none⟩
  | "lspci" => some ⟨[.device .lspci], none⟩
  | "vcat" => some (vcat devices.vsockCount args)
  | "cpus" => some ⟨[.device .cpus], none⟩
  | "start_cpu" => some (startCpu devices args)
  | "" => some ⟨[], none⟩
  | _ => some (Outcome.printed ["Unrecognised command."])

/-- `line.split(' ')`, and the command its first piece names. -/
def dispatch (range : DateTimeRange) (devices : ShellDevices) (line : String) : Option Outcome :=
  match split ' ' line with
  -- `let Some(command) = parts.next() else { continue }`, which `split_ne_nil` rules out
  | [] => some ⟨[], none⟩
  | command :: args => runCommand range devices command args

/-- One turn of the loop of `shell::main` once `read_line` has returned
`line`: `none` where the loop breaks. -/
def shellTurn (range : DateTimeRange) (devices : ShellDevices) (line : ArrayVec UInt8 128) :
    Option Outcome :=
  if isEof line then none
  else
    match String.fromUTF8? ⟨line.items.toArray⟩ with
    | none => some (Outcome.printed ["Invalid UTF-8"])
    | some text => dispatch range devices text

/-! ### Rejections -/

theorem Outcome.printed_onlyWrites (lines : List String) : (Outcome.printed lines).OnlyWrites := by
  refine ⟨rfl, ?_⟩
  intro effect member
  simp only [Outcome.printed, List.mem_map, Function.comp_apply] at member
  obtain ⟨line, -, rfl⟩ := member
  rfl

theorem usage_onlyWrites (form : String) : (usage form).OnlyWrites :=
  Outcome.printed_onlyWrites _

/-- More than four arguments: `vcat` panics collecting them, before it
writes anything. -/
theorem vcat_panics_of_more_than_four (vsockCount : Nat) {args : List String}
    (many : 4 < args.length) : vcat vsockCount args = ⟨[], some .capacityExceeded⟩ := by
  simp [vcat, ArrayVec.collect_eq_none many]

theorem durationSeconds_eq_ok {delay duration : Int} (made : durationSeconds delay = .ok duration) :
    duration = delay := by
  unfold durationSeconds at made
  split at made
  · exact (Except.ok.inj made).symm
  · cases made

theorem addDuration_eq_ok {range : DateTimeRange} {time duration sum : Int}
    (added : addDuration range time duration = .ok sum) : sum = time + duration := by
  unfold addDuration at added
  split at added
  · exact (Except.ok.inj added).symm
  · cases added

/-- An alarm time that is not a `u32` timestamp panics, after the RTC has
been read. -/
theorem setAlarm_panics_of_not_fits (range : DateTimeRange) (rtc : Rtc) {delay : Int}
    (outside : ¬(0 ≤ rtc.time + delay ∧ rtc.time + delay < limit 32)) :
    ∃ panic, setAlarm range rtc delay = ⟨[.device .rtcGetTime], some panic⟩ := by
  -- the `do` block cannot succeed: its last step, `set_match`, rejects the time
  have failed : ∀ result, (do
      let duration ← durationSeconds delay
      let alarmTime ← addDuration range rtc.time duration
      let timestamp ← setMatch alarmTime
      pure (alarmTime, timestamp) : Except Panic (Int × Nat)) ≠ .ok result := by
    intro result succeeded
    simp only [bind_eq_ok, pure_eq_ok] at succeeded
    obtain ⟨duration, made, alarmTime, added, timestamp, matched, -⟩ := succeeded
    obtain rfl := durationSeconds_eq_ok made
    obtain rfl := addDuration_eq_ok added
    simp [setMatch, outside] at matched
  unfold setAlarm
  dsimp only
  split
  · exact ⟨_, rfl⟩
  · exact absurd ‹_› (failed _)

/-- `alarm` first finishes a fired alarm, then only writes a message unless
its first argument parses as a delay, which it goes on to set. -/
theorem alarm_finishes_then_rejects_or_sets (range : DateTimeRange) (alarmFired : Bool)
    (rtc : Rtc) (args : List String) :
    ∃ rest, alarm range alarmFired rtc args = rest.after (irqFinish alarmFired) ∧
      (rest.OnlyWrites ∨ ∃ text others delay, args = text :: others ∧
        parseI64 text = some delay ∧ rest = setAlarm range rtc delay) := by
  unfold alarm
  refine ⟨_, rfl, ?_⟩
  cases args with
  | nil => exact .inl (usage_onlyWrites _)
  | cons text others =>
      cases parsed : parseI64 text with
      | none => exact .inl (by simpa [parsed] using Outcome.printed_onlyWrites _)
      | some delay => exact .inr ⟨text, others, delay, rfl, parsed, by simp [parsed]⟩

/-- When the alarm has fired, `alarm` clears the RTC's interrupt and ends it
at the GIC before it looks at its arguments, whatever they are. -/
theorem alarm_touches_rtc_before_arguments (range : DateTimeRange) (rtc : Rtc)
    (args : List String) :
    (alarm range true rtc args).effects.take 2 =
      [.device .rtcClearInterrupt, .device .endRtcInterrupt] := by
  obtain ⟨rest, finished, -⟩ := alarm_finishes_then_rejects_or_sets range true rtc args
  rw [finished]
  simp [Outcome.after, irqFinish]

/-! ### The shell's turn -/

theorem dispatch_of_split {range : DateTimeRange} {devices : ShellDevices} {line command : String}
    {args : List String} (pieces : split ' ' line = command :: args) :
    dispatch range devices line = runCommand range devices command args := by
  simp [dispatch, pieces]

/-- The line `vcat 1 2 3 4 5`, typed and entered: `read_line` returns it, and
the shell's turn panics collecting the arguments of `vcat`, which powers the
system off, before anything is written. -/
theorem shellTurn_panics_on_vcat_with_five_arguments (range : DateTimeRange)
    (devices : ShellDevices) :
    ∃ state, readLine ([0x76, 0x63, 0x61, 0x74, 0x20, 0x31, 0x20, 0x32, 0x20, 0x33, 0x20, 0x34,
      0x20, 0x35] ++ [0x0D]) = (.returned state, []) ∧
      shellTurn range devices state.line = some ⟨[], some .capacityExceeded⟩ := by
  obtain ⟨state, ran, items, -⟩ := readLine_line [0x76, 0x63, 0x61, 0x74, 0x20, 0x31, 0x20, 0x32,
    0x20, 0x33, 0x20, 0x34, 0x20, 0x35] [] (show isLineEnd 0x0D = true by decide) (by simp [isLineEnd])
    (by unfold EofOnEmptyLine; rw [List.takeWhile_cons_of_neg (by decide)]; simp) (by decide)
  have typed : accepted [0x76, 0x63, 0x61, 0x74, 0x20, 0x31, 0x20, 0x32, 0x20, 0x33, 0x20, 0x34,
      0x20, 0x35] = [0x76, 0x63, 0x61, 0x74, 0x20, 0x31, 0x20, 0x32, 0x20, 0x33, 0x20, 0x34,
      0x20, 0x35] := by decide
  have decoded : String.fromUTF8? ⟨#[0x76, 0x63, 0x61, 0x74, 0x20, 0x31, 0x20, 0x32, 0x20, 0x33,
      0x20, 0x34, 0x20, 0x35]⟩ = some "vcat 1 2 3 4 5" := by decide
  have pieces : split ' ' "vcat 1 2 3 4 5" = "vcat" :: ["1", "2", "3", "4", "5"] := by decide
  refine ⟨state, ran, ?_⟩
  rw [typed] at items
  have notEof : isEof state.line = false := by simp [isEof, items, eof]
  simp only [shellTurn, notEof, items, List.toArray, decoded]
  rw [dispatch_of_split pieces]
  exact congrArg some (vcat_panics_of_more_than_four devices.vsockCount (by decide))

end Osdemo.Shell
