import Polykit.Auth.Deadlock
import Polykit.Auth.Locks
import Polykit.Auth.Machine
import Polykit.Auth.Notifications
import Polykit.Auth.Session
import Polykit.Auth.SignIns
import Polykit.Auth.Spending
import Polykit.Auth.Stranding
import Polykit.Auth.Watermark
import Polykit.Contract
import Polykit.Crypto.Data
import Polykit.Crypto.Encryption
import Polykit.Crypto.Storage
import Polykit.Errors
import Polykit.Icons.Build
import Polykit.Icons.Drift
import Polykit.Icons.Generated
import Polykit.Icons.Manifest
import Polykit.Icons.Names
import Polykit.Icons.Rebuild
import Polykit.Icons.Refresh
import Polykit.Icons.Svg
import Polykit.Icons.Tiers
import Polykit.Json
import Polykit.Kvs.Announcements
import Polykit.Kvs.Contents
import Polykit.Kvs.Isolation
import Polykit.Kvs.Store
import Polykit.Kvs.Subscription
import Polykit.Kvs.Survival
import Polykit.Kvs.Undelete
import Polykit.Kvs.Versions
import Polykit.Lib.Broadcast
import Polykit.Lib.Fallible
import Polykit.Lib.Files
import Polykit.Lib.Fuel
import Polykit.Lib.History
import Polykit.Lib.InPlace
import Polykit.Lib.Interleaving
import Polykit.Lib.Keyed
import Polykit.Lib.Lockstep
import Polykit.Lib.Overlay
import Polykit.Lib.Paths
import Polykit.Lib.Renaming
import Polykit.Lib.Runs
import Polykit.Lib.Search
import Polykit.Lib.Sql
import Polykit.Lib.Text
import Polykit.Lib.Utf8
import Polykit.Lib.Worklist
import Polykit.Log.Builder
import Polykit.Log.Clean
import Polykit.Log.DebugText
import Polykit.Log.Install
import Polykit.Log.Layers
import Polykit.Log.Level
import Polykit.Log.LevelOverride
import Polykit.Log.Rewriting
import Polykit.Log.Safety
import Polykit.OfflineQueue.Crash
import Polykit.OfflineQueue.Exact
import Polykit.OfflineQueue.Failures
import Polykit.OfflineQueue.FileBacked
import Polykit.OfflineQueue.Memory
import Polykit.OfflineQueue.Replay
import Polykit.Realtime.Delivery
import Polykit.Realtime.Heartbeats
import Polykit.Realtime.Lifecycle
import Polykit.Realtime.Phoenix
import Polykit.Realtime.Supervisor
import Polykit.Reconcile.Convergence
import Polykit.Reconcile.Fleet
import Polykit.Reconcile.LocalVersions
import Polykit.Reconcile.Partition
import Polykit.Reconcile.Planner
import Polykit.Reconcile.Range
import Polykit.Registry.Entity
import Polykit.Registry.Idempotence
import Polykit.Registry.Indexes
import Polykit.Registry.Mapping
import Polykit.Registry.RoundTrip
import Polykit.Registry.Snapshot
import Polykit.Sqlite.Directories
import Polykit.Sqlite.Finalize
import Polykit.Sqlite.Manager
import Polykit.Sqlite.Mirror
import Polykit.Sqlite.Queue
import Polykit.Sqlite.Rejection
import Polykit.Sqlite.Storage
import Polykit.Sqlite.Store
import Polykit.Sqlite.Upsert
import Polykit.Sqlite.UpsertStorage
import Polykit.Sync.Arrivals
import Polykit.Sync.Backoff
import Polykit.Sync.Calls
import Polykit.Sync.Concurrent
import Polykit.Sync.Confirmed
import Polykit.Sync.Coordinator
import Polykit.Sync.Decoding
import Polykit.Sync.Dedupe
import Polykit.Sync.Delivery
import Polykit.Sync.Echo
import Polykit.Sync.EchoHistory
import Polykit.Sync.Freshness
import Polykit.Sync.Ingest
import Polykit.Sync.LocalOnly
import Polykit.Sync.Redispatch
import Polykit.Sync.Reducer
import Polykit.Sync.RemoteWriter
import Polykit.Sync.Routes
import Polykit.Sync.Timestamps
import Polykit.Sync.UserSwitch
import Polykit.Tauri.Forwarder
import Polykit.Tauri.Plugin
import Polykit.Wire.Edge
import Polykit.Wire.Envelope
import Polykit.Wire.Http
import Polykit.Wire.Push
