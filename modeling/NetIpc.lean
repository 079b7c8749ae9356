import NetIpc.BatchBuilders
import NetIpc.BatchDispatch
import NetIpc.CacheLookup
import NetIpc.Capacity
import NetIpc.ClientHistory
import NetIpc.ClientLimits
import NetIpc.Delivery
import NetIpc.DispatchSafety
import NetIpc.GoReservation
import NetIpc.LookupAnswers
import NetIpc.LookupDecoders
import NetIpc.RequestSizing
import NetIpc.ShmRounds
import NetIpc.ShmStaleSafety
import NetIpc.SuffixTest
import NetIpc.UdsInflight
import NetIpc.UdsSafety
import NetIpc.UdsWait
