import GramsTof.EventSend
import GramsTof.PacketSenders
import GramsTof.StreamFraming
import GramsTof.CommandReceive
import GramsTof.ReceiveBound
import GramsTof.PacketCorruption
import GramsTof.ThreadLifecycle
import GramsTof.ClientLoops
import GramsTof.ConnectionUse
import GramsTof.EventServerClients
import GramsTof.ConnectionLoss
import GramsTof.FrameRing
import GramsTof.RawReader
import GramsTof.WriteRaw
import GramsTof.RawRoundTrip
import GramsTof.FrameAccounting
import GramsTof.SortData
import GramsTof.ConversionOutput
import GramsTof.ConfigPaths
import GramsTof.CalibrationCommands
import GramsTof.ConversionCommands
import GramsTof.DatagramFrames
import GramsTof.StepReading
import GramsTof.ThreadPool
import GramsTof.SinglesWriter
import GramsTof.TableLoaders
import GramsTof.CalibrationTable
import GramsTof.ForkedCalibration
import GramsTof.ProcessHit
import GramsTof.ThresholdCalibration
import GramsTof.MemoryControl
import GramsTof.BiasMapping
import GramsTof.OptionalArguments
import GramsTof.AcquiredFrames
import GramsTof.FrameService
import GramsTof.RequestIndependence
import GramsTof.AsicConfigCache
import GramsTof.TriggerMap
import GramsTof.SimpleChannelMap
import GramsTof.InterruptedScript
import GramsTof.BiasCalibrationTable
import GramsTof.TableScripts
import GramsTof.HitChain
import GramsTof.DaqSession
import GramsTof.CardMerge
import GramsTof.LoadToHardware
import GramsTof.AsicCommand
import GramsTof.BiasChannels
import GramsTof.RailRegisters
import GramsTof.PowerControl
