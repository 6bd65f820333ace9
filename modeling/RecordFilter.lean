import RecordFilter.Main
import RecordFilter.Script
import RecordFilter.Proofs.Normal.Substance
import RecordFilter.Proofs.Normal.Frame
import RecordFilter.Proofs.Normal.Respacing
import RecordFilter.Proofs.Normal.Scaffold
import RecordFilter.Proofs.Script.Expression
import RecordFilter.Proofs.Script.Group
import RecordFilter.Proofs.Script.Grammar
import RecordFilter.Proofs.Script.Trace
import RecordFilter.Proofs.Script.Unambiguous
import RecordFilter.Proofs.Script.Build
import RecordFilter.Proofs.Script.Custom
import RecordFilter.Proofs.Script.Closing
import RecordFilter.Proofs.Record.Class
import RecordFilter.Proofs.CommandLine.RoundTrip
import RecordFilter.Proofs.CommandLine.Ending
import RecordFilter.Proofs.Normal.Filling
import RecordFilter.Proofs.Normal.Repair
import RecordFilter.Proofs.CommandLine.FilterInput
import RecordFilter.Proofs.CommandLine.LogFile
import RecordFilter.Proofs.CommandLine.ErrorLine
