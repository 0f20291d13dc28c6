import CmsTypings.Main
import CmsTypings.Proofs.PropertyNames
import CmsTypings.Proofs.References
import CmsTypings.Proofs.EnumText
import CmsTypings.Proofs.Identifiers
import CmsTypings.Proofs.EmptyEntries
import CmsTypings.Proofs.Accounts
import CmsTypings.Proofs.ContentTypeNames
import CmsTypings.Proofs.DeclarationOrder
import CmsTypings.Proofs.Addition
import CmsTypings.Proofs.Listings
import CmsTypings.Proofs.DroppedAttributes
import CmsTypings.Proofs.DumpReading
import CmsTypings.Proofs.SavedFile
import CmsTypings.Proofs.CheckedModule
import CmsTypings.Proofs.EnumKeys
import CmsTypings.Proofs.BareReferences
import CmsTypings.Proofs.TypeParameter
import CmsTypings.Proofs.MediaReferences
import CmsTypings.Proofs.OptionalMarker
import CmsTypings.Proofs.PlainNameSearch
import CmsTypings.Proofs.Literals
import CmsTypings.Proofs.EntryLines
import CmsTypings.Proofs.PascalShape
import CmsTypings.Proofs.SafeKeys
import CmsTypings.Proofs.Assembly
import CmsTypings.Proofs.DriftReport
import CmsTypings.Proofs.TidyRuns
import CmsTypings.Proofs.Segmentation
