import PagedSchema.Main
import PagedSchema.Proofs.Checks
import PagedSchema.Proofs.WellFormed
import PagedSchema.Proofs.Survey
import PagedSchema.Proofs.Generation
import PagedSchema.Proofs.MappedFields
import PagedSchema.Proofs.Connecting
import PagedSchema.Proofs.PagedDocument
import PagedSchema.Proofs.Front
import PagedSchema.Proofs.PagedWellFormed
import PagedSchema.Proofs.Paginating
import PagedSchema.Proofs.Reports
import PagedSchema.Proofs.Agreement
import PagedSchema.Proofs.PagedErrors
import PagedSchema.Proofs.Placement
import PagedSchema.Proofs.Settled
import PagedSchema.Proofs.Closed
import PagedSchema.Proofs.RemainingMarks
import PagedSchema.Proofs.Rearrangement
import PagedSchema.Proofs.MappedTables
import PagedSchema.Proofs.UnplacedErrors
import PagedSchema.Proofs.UnplacedPaging
import PagedSchema.Proofs.HintErasure
import PagedSchema.Proofs.SplitTypes
import PagedSchema.Proofs.RenamedDirectives
import PagedSchema.Proofs.Loading
import PagedSchema.Proofs.MarkerText
import PagedSchema.Proofs.RenamedPaging
import PagedSchema.Proofs.DeclaredMarker
import PagedSchema.Proofs.GreatestHints
import PagedSchema.Proofs.AddedHints
import PagedSchema.Proofs.Runs
import PagedSchema.Proofs.ErrorPlaces
import PagedSchema.Proofs.WrittenFiles
import PagedSchema.Proofs.ParsedNames
import PagedSchema.Proofs.PrintedEnd
import PagedSchema.Proofs.Transforming
import PagedSchema.Proofs.Readings
import PagedSchema.Proofs.GivenArguments
import PagedSchema.Proofs.CommandLines
import PagedSchema.Proofs.RememberedMarks
import PagedSchema.Proofs.Collisions
import PagedSchema.Proofs.StoppedWalks
import PagedSchema.Proofs.ReferenceErrors
import PagedSchema.Proofs.RepeatedKeys
import PagedSchema.Proofs.DuplicateErrors
import PagedSchema.Proofs.Redefinitions
import PagedSchema.Proofs.SurveyContents
import PagedSchema.Proofs.AppendedSources
import PagedSchema.Proofs.Decoding
import PagedSchema.Proofs.PathNames
import PagedSchema.Proofs.FileTrees
import PagedSchema.Proofs.NamedFiles
import PagedSchema.Proofs.FoundFiles
import PagedSchema.Proofs.LoadedSources
