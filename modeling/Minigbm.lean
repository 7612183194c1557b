import Minigbm.Arith
import Minigbm.Drv.Defs
import Minigbm.Drv.Format
import Minigbm.Drv.Combination
import Minigbm.Xe.Device
import Minigbm.Xe.Metadata
import Minigbm.Xe.Negotiation
import Minigbm.Xe.Coverage
import Minigbm.Xe.Tiling
import Minigbm.Xe.Reference
import Minigbm.Xe.Flush
import Minigbm.Xe.Backend
import Minigbm.Gralloc.BufferLock
import Minigbm.Gralloc.ReservedRegion
import Minigbm.Gralloc.BufferMetadata
import Minigbm.Gralloc.PlaneAccess
import Minigbm.Gralloc.Allocator
