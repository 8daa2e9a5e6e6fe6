import NunchukSdk.Foundation.NativeExec
import NunchukSdk.Foundation.EventRun
import NunchukSdk.Jni.Env
import NunchukSdk.Types.Enums
import NunchukSdk.Provider.Init
import NunchukSdk.Provider.BitBox
import NunchukSdk.Foundation.RoseTree
import NunchukSdk.Jni.Numbers
import NunchukSdk.ScriptTree.ScriptNode
import NunchukSdk.ScriptTree.ScriptNodeCache
import NunchukSdk.Foundation.HexBytes
import NunchukSdk.Jni.Strings
import NunchukSdk.Liquid.AssetId
import NunchukSdk.Liquid.Outputs
import NunchukSdk.Marshal.Library
import NunchukSdk.Marshal.Signer
import NunchukSdk.Marshal.Wallet
import NunchukSdk.Marshal.WalletEdit
import NunchukSdk.EntryPoints.ReturnWallet
import NunchukSdk.Jni.EntryPoint
import NunchukSdk.EntryPoints.Failures
import NunchukSdk.Jni.ClassLookup
import NunchukSdk.Group.PlatformKey
import NunchukSdk.Group.SandboxSlots
import NunchukSdk.Marshal.Transaction
import NunchukSdk.Jni.Requests
import NunchukSdk.Foundation.KeyTotals
import NunchukSdk.EntryPoints.DraftRbf
import NunchukSdk.Group.DummyTransaction
import NunchukSdk.Liquid.MalformedIds
import NunchukSdk.Marshal.SignerRoundTrip
import NunchukSdk.Marshal.SatsCard
import NunchukSdk.Foundation.Dispatch
import NunchukSdk.Listeners.Updates
import NunchukSdk.Foundation.Interleaving
import NunchukSdk.EntryPoints.ReadModifyWrite
import NunchukSdk.EntryPoints.MessageText
import NunchukSdk.Jni.EnvGuard
import NunchukSdk.EntryPoints.SigningPaths
import NunchukSdk.Nfc.Records
import NunchukSdk.Foundation.SignedSum
import NunchukSdk.Nfc.ColdCard
import NunchukSdk.EntryPoints.SpendableNow
import NunchukSdk.Foundation.ObjectEquality
import NunchukSdk.Listeners.AmountText
import NunchukSdk.Marshal.ValueEquality
import NunchukSdk.Foundation.Interaction
import NunchukSdk.Nfc.Transport
import NunchukSdk.Nfc.TapCards
import NunchukSdk.Listeners.Registration
import NunchukSdk.Foundation.Unwinding
import NunchukSdk.Hardware.Sessions
import NunchukSdk.Hardware.Ledger
import NunchukSdk.Hardware.BitBoxSessions
import NunchukSdk.EntryPoints.OfflineSigning
import NunchukSdk.Foundation.Copies
import NunchukSdk.Nfc.AirGap
import NunchukSdk.Nfc.TapSigning
import NunchukSdk.Foundation.OneWay
import NunchukSdk.Rooms.Executors
import NunchukSdk.Rooms.Methods
import NunchukSdk.Rooms.Network
