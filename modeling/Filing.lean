import Filing.Http.Service
import Filing.Main
import Filing.Proofs.Configuration
import Filing.Proofs.Contention
import Filing.Proofs.Dispatch
import Filing.Proofs.Draft
import Filing.Proofs.Exchange
import Filing.Proofs.FormExport
import Filing.Proofs.Interchange
import Filing.Proofs.Ledger
import Filing.Proofs.Odds
import Filing.Proofs.Office.Upload
import Filing.Proofs.Overdue
import Filing.Proofs.Placeholder
import Filing.Proofs.Pricing
import Filing.Proofs.Queue
import Filing.Proofs.Race
import Filing.Proofs.ReportExport
import Filing.Proofs.Requirement
import Filing.Proofs.Takings
import Filing.Proofs.Tariff
import Filing.Proofs.Timestamps
import Filing.Proofs.TypedInstant
import Filing.Proofs.Versions
