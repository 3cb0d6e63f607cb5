import ClickHouse.MergeTree.Part
import ClickHouse.MergeTree.Storage
import ClickHouse.MergeTree.Stream
import ClickHouse.MergeTree.FinalizePartOnDisk
import ClickHouse.MergeTree.Finalizer
import ClickHouse.MergeTree.FinalizePartAsync
import ClickHouse.MergeTree.WriteThenFinalize
import ClickHouse.MergeTree.Handles
import ClickHouse.MergeTree.Lifecycle
import ClickHouse.ExternalQuery.AST
import ClickHouse.ExternalQuery.Prune
import ClickHouse.ExternalQuery.Compatible
import ClickHouse.ExternalQuery.Transform
import ClickHouse.DeltaLake.Schema
import ClickHouse.DeltaLake.Visit
import ClickHouse.DeltaLake.Snapshot
import ClickHouse.DeltaLake.Recursion
import ClickHouse.TTL.Info
import ClickHouse.TTL.CalcTransform
import ClickHouse.ExternalQuery.Soundness
import ClickHouse.ExternalQuery.EntryPoint
import ClickHouse.WriteHelpers.UUID
import ClickHouse.WriteHelpers.IPv4
import ClickHouse.MergeTree.StagedFiles
import ClickHouse.Parsers.RowPolicyName
import ClickHouse.WriteHelpers.ProbablyQuoted
