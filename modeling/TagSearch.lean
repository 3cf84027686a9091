import TagSearch.Main
import TagSearch.Proofs.Calendar.Seconds
import TagSearch.Proofs.Predicate.Complement
import TagSearch.Proofs.Predicate.DayOrder
import TagSearch.Proofs.Predicate.TagRecall
import TagSearch.Proofs.Predicate.WholeTags
import TagSearch.Proofs.Query.Boundary
import TagSearch.Proofs.Query.GroupOperand
import TagSearch.Proofs.Query.NormalForm
import TagSearch.Proofs.Query.PageSize
import TagSearch.Proofs.Query.Stretches
import TagSearch.Proofs.Query.TimeOfDay
import TagSearch.Proofs.Query.WellFormed
import TagSearch.Proofs.Sql.Placeholders
import TagSearch.Proofs.Sql.Translations
import TagSearch.Proofs.Store.Catalog
import TagSearch.Proofs.Store.IdleDemand
import TagSearch.Proofs.Store.Listing
import TagSearch.Proofs.Store.SortDirective
import TagSearch.Proofs.Store.TagCount
import TagSearch.Proofs.Query.WellTyped
