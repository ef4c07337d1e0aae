import OpenAirCast.App.HandleTheorems
import OpenAirCast.App.InventoryTheorems
import OpenAirCast.App.PreferencesWorkerTheorems
import OpenAirCast.App.SelectionTheorems
import OpenAirCast.App.ShortcutTheorems
import OpenAirCast.Audio.CadenceTheorems
import OpenAirCast.Audio.CipherTheorems
import OpenAirCast.Audio.JitterTheorems
import OpenAirCast.Audio.SenderExitTheorems
import OpenAirCast.Backend.ActivationTheorems
import OpenAirCast.Backend.CalibrationTheorems
import OpenAirCast.Backend.EndpointTheorems
import OpenAirCast.Backend.FileStoreTheorems
import OpenAirCast.Backend.HealthTheorems
import OpenAirCast.Backend.NetworkMonitorTheorems
import OpenAirCast.Backend.PcmBridgeTheorems
import OpenAirCast.Backend.PledgeTheorems
import OpenAirCast.Backend.PollTheorems
import OpenAirCast.Backend.ProbeTheorems
import OpenAirCast.Backend.ReceiptTheorems
import OpenAirCast.Backend.RejoinTheorems
import OpenAirCast.Backend.StrandedTheorems
import OpenAirCast.Backend.TransitionTheorems
import OpenAirCast.Bridge.ClosureTheorems
import OpenAirCast.Bridge.EndpointKeyTheorems
import OpenAirCast.Bridge.SettleTheorems
import OpenAirCast.Bridge.VolumeTheorems
import OpenAirCast.Client.ControlListenerTheorems
import OpenAirCast.Client.GroupStreamTheorems
import OpenAirCast.Client.GroupTheorems
import OpenAirCast.Client.PlaybackTheorems
import OpenAirCast.Diagnostics.AttributionTheorems
import OpenAirCast.Diagnostics.ExportTheorems
import OpenAirCast.Diagnostics.GapTheorems
import OpenAirCast.Diagnostics.SessionEndTheorems
import OpenAirCast.Diagnostics.TimestampTheorems
import OpenAirCast.Diagnostics.TrackerTheorems
import OpenAirCast.Discovery.AdvertisementTheorems
import OpenAirCast.Discovery.DiscoveryStateTheorems
import OpenAirCast.Discovery.SupervisorTheorems
import OpenAirCast.Pairing.ChannelTheorems
import OpenAirCast.Pairing.RetryTheorems
import OpenAirCast.Pairing.SessionTheorems
import OpenAirCast.Platform.HotkeyTheorems
import OpenAirCast.Rtsp.ClosingTheorems
import OpenAirCast.Timing.PtpTlvTheorems
import OpenAirCast.Timing.SignTheorems
