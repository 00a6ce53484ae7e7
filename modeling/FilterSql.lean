import FilterSql.Json.Filters
import FilterSql.Template.Select
import FilterSql.Template.Update
import FilterSql.Template.Delete
import FilterSql.Template.BatchDelete
import FilterSql.Proofs.Agreement
import FilterSql.Proofs.OrderedMap
import FilterSql.Proofs.FilterCondition
import FilterSql.Proofs.PlaceholderName
import FilterSql.Proofs.Choice
import FilterSql.Proofs.StatementText
import FilterSql.Proofs.CompiledClause
import FilterSql.Proofs.ConditionText
import FilterSql.Proofs.PlaceholderScan
import FilterSql.Proofs.Call
import FilterSql.Proofs.ComparedColumn
import FilterSql.Proofs.PermanentFilters
import FilterSql.Proofs.FilterReport
import FilterSql.Proofs.ValueShape
import FilterSql.Proofs.SelectedRows
import FilterSql.Proofs.BatchFilters
import FilterSql.Proofs.DeletedRows
import FilterSql.Proofs.Paging
import FilterSql.Proofs.Assignments
import FilterSql.Proofs.KeyGrammar
import FilterSql.Proofs.CompatibleConditions
import FilterSql.Proofs.DistinctPlaceholders
import FilterSql.Proofs.SelectedFields
import FilterSql.Proofs.BatchBindings
import FilterSql.Proofs.BoundLists
import FilterSql.Proofs.ExactColumns
import FilterSql.Proofs.LaterFilters
import FilterSql.Proofs.CombinedRows
import FilterSql.Proofs.ChosenOrder
import FilterSql.Proofs.StoredNames
import FilterSql.Proofs.OrderTerms
import FilterSql.Proofs.SortableColumns
import FilterSql.Proofs.DocumentFilters
import FilterSql.Proofs.RankReading
import FilterSql.Proofs.ReadDocuments
import FilterSql.Proofs.MergedMaps
import FilterSql.Proofs.ReportedOrder
