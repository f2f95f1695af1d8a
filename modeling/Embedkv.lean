import Embedkv.Lib.Proc
import Embedkv.Lib.Bytes
import Embedkv.Lib.Utf8
import Embedkv.Lib.Select
import Embedkv.Format
import Embedkv.Device
import Embedkv.State
import Embedkv.Rust.Block
import Embedkv.Rust.Record
import Embedkv.Rust.Store
import Embedkv.Go.Record
import Embedkv.Go.Store
import Embedkv.Codec
import Embedkv.Image
import Embedkv.Lawful
import Embedkv.Record
import Embedkv.Erase
import Embedkv.Layout
import Embedkv.Effects
import Embedkv.Plan
import Embedkv.Scan
import Embedkv.Recovery
import Embedkv.Mount
import Embedkv.Transition
import Embedkv.Outcome
import Embedkv.Session
import Embedkv.Run
import Embedkv.Faulty
import Embedkv.FaultLaws
import Embedkv.RetryLaws
import Embedkv.DeleteLaws
import Embedkv.Exact
import Embedkv.Lockstep
import Embedkv.Steady
import Embedkv.MapLaws
import Embedkv.IsolationLaws
import Embedkv.Cache
import Embedkv.Cut
import Embedkv.Fanout
import Embedkv.Power
import Embedkv.PowerLaws
import Embedkv.FanoutLaws
import Embedkv.Lib.Runs
import Embedkv.LockstepLaws
import Embedkv.Frame
import Embedkv.Alone
import Embedkv.SpaceLaws
import Embedkv.FrameLaws
import Embedkv.Lead
import Embedkv.IndexLaws
import Embedkv.Agree
import Embedkv.Stores
import Embedkv.RecoveryLaws
import Embedkv.AgreeLaws
import Embedkv.GenerationLaws
import Embedkv.DivergentLaws
import Embedkv.Reading
import Embedkv.ReadLaws
import Embedkv.SurviveLaws
import Embedkv.Lib.Crc
import Embedkv.CrcLaws
import Embedkv.RecordLaws
import Embedkv.LayoutLaws
import Embedkv.Lib.Walk
import Embedkv.EraseLaws
import Embedkv.MountLaws
import Embedkv.Lib.Safe
import Embedkv.UnwindLaws
import Embedkv.CodecLaws
import Embedkv.Lib.Loop
import Embedkv.ChainWalk
import Embedkv.Trace
import Embedkv.ChainLaws
import Embedkv.Lib.Budget
import Embedkv.Ledger
import Embedkv.RelayLaws
import Embedkv.Lib.Script
import Embedkv.Lib.Spelled
import Embedkv.Spelling
import Embedkv.Bounds
import Embedkv.Parallel
import Embedkv.Recorded
import Embedkv.Lib.Blocks
import Embedkv.Files
import Embedkv.FileLaws
import Embedkv.FileRelayLaws
import Embedkv.Lib.Machine
import Embedkv.Lib.Atomic
import Embedkv.Lib.Locked
import Embedkv.Lib.LockProgress
import Embedkv.Concurrent
import Embedkv.ConcurrentLaws
