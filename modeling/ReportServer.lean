import ReportServer.Api.History
import ReportServer.Csv.Reader
import ReportServer.Database.Address
import ReportServer.Database.Collaborators
import ReportServer.Database.Migration
import ReportServer.Database.Outage
import ReportServer.Directory.Source
import ReportServer.Export.Desk
import ReportServer.Settings.Listen
import ReportServer.Settings.Load
import ReportServer.Store.Catalogue
import ReportServer.Store.Executor
import ReportServer.Store.Recorder
import ReportServer.Trail.Logger
import ReportServer.Workbook.Position
import ReportServer.Proofs.Delivery.Handover
import ReportServer.Proofs.Csv.RoundTrip
import ReportServer.Proofs.Export.Start
import ReportServer.Proofs.Export.Interleaving
import ReportServer.Proofs.Export.Tracking
import ReportServer.Proofs.Api.Layers
import ReportServer.Proofs.Api.Secrecy
import ReportServer.Proofs.Workbook.Placement
import ReportServer.Proofs.Workbook.ReadingBack
import ReportServer.Proofs.Export.Balance
import ReportServer.Proofs.Api.Asking
import ReportServer.Proofs.Api.Gate
import ReportServer.Proofs.Workbook.Limits
import ReportServer.Proofs.Name.Sheet
import ReportServer.Proofs.Calendar
import ReportServer.Proofs.Report.Encoding
import ReportServer.Proofs.Name.Filename
import ReportServer.Proofs.Text.Bytes
import ReportServer.Proofs.Delivery.Naming
import ReportServer.Proofs.Delivery.ToEnd
import ReportServer.Proofs.Api.Downloads
import ReportServer.Proofs.Store.Listing
import ReportServer.Proofs.Database.Driver
import ReportServer.Proofs.Database.Tables
import ReportServer.Proofs.Database.Query
import ReportServer.Proofs.Database.Definitions
import ReportServer.Proofs.Api.Authors
import ReportServer.Proofs.Database.Measures
import ReportServer.Proofs.Api.Counting
import ReportServer.Proofs.Api.Envelope
import ReportServer.Proofs.Net.SocketAddress
import ReportServer.Proofs.Settings.Starting
import ReportServer.Proofs.Decimal.Rounding
import ReportServer.Proofs.Decimal.Shortest
import ReportServer.Proofs.Workbook.Integers
import ReportServer.Proofs.Json.Documents
import ReportServer.Proofs.Json.Strings
import ReportServer.Proofs.Directory.Profile
import ReportServer.Proofs.Api.Vouching
import ReportServer.Proofs.Name.Group
import ReportServer.Proofs.Api.Origins
import ReportServer.Proofs.Json.Writing
import ReportServer.Proofs.Api.Refusals
import ReportServer.Proofs.Json.Members
import ReportServer.Proofs.Settings.Layering
import ReportServer.Proofs.Settings.Sources
import ReportServer.Proofs.Settings.Precedence
import ReportServer.Proofs.Text.Stripping
import ReportServer.Proofs.Text.Lowercase
import ReportServer.Proofs.Report.Extension
import ReportServer.Proofs.Name.SheetCleaning
import ReportServer.Proofs.Name.FilenameCleaning
import ReportServer.Proofs.Api.Locations
