import RequestQuery.Main
import RequestQuery.Proofs.Join.Batches
import RequestQuery.Proofs.Join.NormalForm
import RequestQuery.Proofs.Join.Trie
import RequestQuery.Proofs.Paging.Pages
import RequestQuery.Proofs.Compiler.Dependence
import RequestQuery.Proofs.Compiler.Grounded
import RequestQuery.Proofs.Paging.Transparency
import RequestQuery.Proofs.FirstFault
import RequestQuery.Proofs.Paging.Requested
import RequestQuery.Proofs.Compiler.Pages
import RequestQuery.Proofs.Join.Faults
import RequestQuery.Proofs.Compiler.Faults
import RequestQuery.Proofs.Compiler.RootConditions
import RequestQuery.Proofs.Compiler.WrittenOut
import RequestQuery.Proofs.QueryString
import RequestQuery.Proofs.Operator.Grammar
import RequestQuery.Proofs.Operator.Content
import RequestQuery.Proofs.Operator.Order
import RequestQuery.Proofs.Wildcard.Matching
import RequestQuery.Proofs.Paging.DerivedOffset
import RequestQuery.Proofs.Text.LeadingInteger
import RequestQuery.Proofs.Document.Record
import RequestQuery.Proofs.Paging.ConfigDocument
import RequestQuery.Proofs.Paging.WrittenIntegers
import RequestQuery.Proofs.Compiler.SortOrder
import RequestQuery.Proofs.Join.SingleFilter
import RequestQuery.Proofs.Compiler.Searchable
import RequestQuery.Proofs.Paging.AcceptedRange
import RequestQuery.Proofs.FilterTree.NoneEmpty
import RequestQuery.Proofs.Whitelist
import RequestQuery.Proofs.Join.Size
