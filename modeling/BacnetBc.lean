import BacnetBc.Announce
import BacnetBc.Cari.Answer
import BacnetBc.Cari.Devices
import BacnetBc.Cari.ReadZip
import BacnetBc.Cari.RoundTrip
import BacnetBc.Cari.Size
import BacnetBc.Cari.Tree
import BacnetBc.Cari.Validate
import BacnetBc.Cari.WriteZip
import BacnetBc.Cari.Zip
import BacnetBc.Cert.Activations
import BacnetBc.Cert.Bundle
import BacnetBc.Cert.Commit
import BacnetBc.Cert.CommitStops
import BacnetBc.Cert.Committed
import BacnetBc.Cert.Contents
import BacnetBc.Cert.EnsureRequest
import BacnetBc.Cert.Files
import BacnetBc.Cert.Generate
import BacnetBc.Cert.Import
import BacnetBc.Cert.KeyRuns
import BacnetBc.Cert.Layout
import BacnetBc.Cert.Node
import BacnetBc.Cert.NodeRequest
import BacnetBc.Cert.Pem
import BacnetBc.Cert.PemBlocks
import BacnetBc.Cert.Prepare
import BacnetBc.Cert.Refusal
import BacnetBc.Cert.Request
import BacnetBc.Cert.Resolve
import BacnetBc.Cert.Response
import BacnetBc.Cert.Staging
import BacnetBc.Cert.Store
import BacnetBc.Cert.Uuid
import BacnetBc.Cert.Validate
import BacnetBc.CommandLine.Checked
import BacnetBc.CommandLine.Order
import BacnetBc.CommandLine.Parse
import BacnetBc.CommandLine.Reading
import BacnetBc.CommandLine.Scans
import BacnetBc.Hub.Attempts
import BacnetBc.Hub.Connector
import BacnetBc.Hub.Frames
import BacnetBc.Hub.Node
import BacnetBc.Hub.Sends
import BacnetBc.Hub.Uri
import BacnetBc.Hub.World
import BacnetBc.Ivory
import BacnetBc.Lib.BinarySearch
import BacnetBc.Lib.Calendar
import BacnetBc.Lib.Choice
import BacnetBc.Lib.Chunks
import BacnetBc.Lib.Deadline
import BacnetBc.Lib.Decimal
import BacnetBc.Lib.Dedup
import BacnetBc.Lib.Delimiter
import BacnetBc.Lib.Double
import BacnetBc.Lib.Fallback
import BacnetBc.Lib.FaultyDisk
import BacnetBc.Lib.Fifo
import BacnetBc.Lib.Hex
import BacnetBc.Lib.Ieee
import BacnetBc.Lib.Install
import BacnetBc.Lib.LastWins
import BacnetBc.Lib.LittleEndian
import BacnetBc.Lib.Memory
import BacnetBc.Lib.Occurs
import BacnetBc.Lib.Path
import BacnetBc.Lib.Reassembly
import BacnetBc.Lib.Returns
import BacnetBc.Lib.Rotation
import BacnetBc.Lib.RoundRobin
import BacnetBc.Lib.Single
import BacnetBc.Lib.Trajectory
import BacnetBc.Log.Chosen
import BacnetBc.Log.Decode
import BacnetBc.Log.Named
import BacnetBc.Log.Names
import BacnetBc.Log.RoundTrip
import BacnetBc.Log.Summary
import BacnetBc.Log.Tags
import BacnetBc.Objects.Application
import BacnetBc.Objects.Clock
import BacnetBc.Objects.Commandable
import BacnetBc.Objects.Commands
import BacnetBc.Objects.FileAccess
import BacnetBc.Objects.Names
import BacnetBc.Objects.Password
import BacnetBc.Objects.Reinitialize
import BacnetBc.Objects.Restart
import BacnetBc.Peer.Ack
import BacnetBc.Peer.Alike
import BacnetBc.Peer.Answer
import BacnetBc.Peer.Broadcast
import BacnetBc.Peer.Controller
import BacnetBc.Peer.Diamond
import BacnetBc.Peer.Observed
import BacnetBc.Peer.Polls
import BacnetBc.Peer.Reads
import BacnetBc.Peer.Rebind
import BacnetBc.Peer.Reply
import BacnetBc.Peer.Tag
import BacnetBc.Peer.Token
import BacnetBc.Restore
import BacnetBc.Udp
import BacnetBc.Udp6
import BacnetBc.UdpReceive
