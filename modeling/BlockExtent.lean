import BlockExtent.Main
import BlockExtent.Session
import BlockExtent.Proofs.InspectionAgreement
import BlockExtent.Proofs.EntryPointRefinement
import BlockExtent.Proofs.Opening
import BlockExtent.Proofs.PathSimulation
import BlockExtent.Proofs.Frame
import BlockExtent.Proofs.Erasure
import BlockExtent.Proofs.Records
import BlockExtent.Proofs.Opened
import BlockExtent.Proofs.Backing
import BlockExtent.Proofs.Treatment
import BlockExtent.Proofs.PlainMode
import BlockExtent.Proofs.FlagWords
import BlockExtent.Proofs.PathsApart
import BlockExtent.Proofs.Verbosity
import BlockExtent.Proofs.Noninterference
import BlockExtent.Proofs.Thresholds
import BlockExtent.Proofs.Inquiries
import BlockExtent.Proofs.OpenObjects
import BlockExtent.Proofs.RawMode
import BlockExtent.Proofs.OptionFilters
import BlockExtent.Proofs.ErrorCell
import BlockExtent.Proofs.Reached
import BlockExtent.Proofs.OptionLattice
import BlockExtent.Proofs.Causes
import BlockExtent.Proofs.Interruptions
import BlockExtent.Proofs.Requests
import BlockExtent.Proofs.Accounts
import BlockExtent.Proofs.ArgumentOrder
import BlockExtent.Proofs.Encoding
import BlockExtent.Proofs.ReadBack
import BlockExtent.Proofs.Decoding
import BlockExtent.Proofs.Fields
import BlockExtent.Proofs.MountLines
import BlockExtent.Proofs.FirstMatch
import BlockExtent.Proofs.Resolution
import BlockExtent.Proofs.Remarks
import BlockExtent.Proofs.Facilities
