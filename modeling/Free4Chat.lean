import Free4Chat.Session.RestartEquivalence
import Free4Chat.Task.Eviction
import Free4Chat.Socket.UnicastBudget
import Free4Chat.Storage.AttachmentAgreement
import Free4Chat.GeneratedApp.SharedState
import Free4Chat.Resident.Hibernation
import Free4Chat.Sfu.TrackAdmission
import Free4Chat.Runtime.Interrupt
import Free4Chat.Runtime.NoReplay
import Free4Chat.Runtime.Reclamation
import Free4Chat.Runtime.LivePrivacy
import Free4Chat.Daemon.NoGhost
import Free4Chat.Media.FencedAudio
import Free4Chat.Media.Attribution
import Free4Chat.Media.FailsClosed
import Free4Chat.Runtime.DiscoveryPaging
import Free4Chat.Room.TranscriptAppend
import Free4Chat.Operation.MediaIndependence
import Free4Chat.Resident.ContextRead
import Free4Chat.Client.MessageReconciliation
import Free4Chat.Session.VoiceReadiness
import Free4Chat.Socket.OpenSockets
import Free4Chat.Session.RoomLifetime
import Free4Chat.Session.KeptLog
import Free4Chat.Runtime.LedgerLock
import Free4Chat.Runtime.SteerOverlay
import Free4Chat.Runtime.TurnLanes
import Free4Chat.Speech.SttSession
import Free4Chat.Speech.Transcriber
import Free4Chat.Voice.SpeakerTurns
import Free4Chat.Media.PcmQueue
import Free4Chat.Media.RequestAdmission
import Free4Chat.Harness.ControlExclusion
import Free4Chat.Runtime.TurnBudget
import Free4Chat.Capability.PairedResponses
import Free4Chat.Runtime.ToolResult
import Free4Chat.Runtime.IdentityRetention
import Free4Chat.Speech.TranscriptCalls
import Free4Chat.Runtime.OneTransport
import Free4Chat.Runtime.EventBuffer
import Free4Chat.Media.ParticipantChannel
import Free4Chat.Task.TaskViews
import Free4Chat.Task.SessionPage
import Free4Chat.Client.SfuEgress
import Free4Chat.Client.TaskLiveView
