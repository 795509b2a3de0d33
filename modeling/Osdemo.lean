import Osdemo.Library.AddrRange
import Osdemo.Library.Loop
import Osdemo.Library.ArrayVec
import Osdemo.Library.FrameAllocator
import Osdemo.Rust.Core
import Osdemo.Platform.Fdt
import Osdemo.Platform.IdMap
import Osdemo.Platform.IdTranslation
import Osdemo.Pci.Range
import Osdemo.Pci.BarAllocator
import Osdemo.Pci.RootInfo
import Osdemo.Pci.InitPci
import Osdemo.Boot.MapRegions
import Osdemo.Boot.Drivers
import Osdemo.Boot.Main
import Osdemo.Boot.Secondary
import Osdemo.Boot.Virtio
import Osdemo.Interrupts.Handlers
import Osdemo.Interrupts.Cores
import Osdemo.Interrupts.Alarm
import Osdemo.Interrupts.Sgi
import Osdemo.Shell.ReadLine
import Osdemo.Shell.Commands
import Osdemo.Shell.Session
import Osdemo.Shell.Vcat
