import ApiContract.FileTree
import ApiContract.Main
import ApiContract.Proofs.Catalog
import ApiContract.Proofs.Reachability
import ApiContract.Proofs.Narrowing
import ApiContract.Proofs.Outcome
import ApiContract.Proofs.Splitting
import ApiContract.Proofs.Variants
import ApiContract.Proofs.Naming
import ApiContract.Proofs.Validation
import ApiContract.Proofs.Resolution
import ApiContract.Proofs.Refusal
import ApiContract.Proofs.Expansion
import ApiContract.Proofs.ViewFlag
import ApiContract.Proofs.NeededTypes
import ApiContract.Proofs.Rearrangement
import ApiContract.Proofs.Selecting
import ApiContract.Proofs.Contexts
import ApiContract.Proofs.RequestOrder
import ApiContract.Proofs.NameClash
import ApiContract.Proofs.TargetAgreement
import ApiContract.Proofs.Decoding
import ApiContract.Proofs.JsonTokens
import ApiContract.Proofs.YamlScalars
import ApiContract.Proofs.YamlTokens
import ApiContract.Proofs.YamlNodes
import ApiContract.Proofs.FormatAgreement
import ApiContract.Proofs.YamlNumbers
import ApiContract.Proofs.LooseJson
import ApiContract.Proofs.Fallback
import ApiContract.Proofs.RegistryHistory
import ApiContract.Proofs.Taxonomy
import ApiContract.Proofs.VariantTags
import ApiContract.Proofs.Places
import ApiContract.Proofs.PrintedJson
import ApiContract.Proofs.PrintedContexts
import ApiContract.Proofs.Generation
import ApiContract.Proofs.RequestShape
import ApiContract.Proofs.ShownNames
import ApiContract.Proofs.Arguments
import ApiContract.Proofs.CommandRuns
import ApiContract.Proofs.ConfiguredRuns
import ApiContract.Proofs.StableOrder
import ApiContract.Proofs.ContextCoverage
import ApiContract.Proofs.Deregistration
import ApiContract.Proofs.ConstructorArgs
import ApiContract.Proofs.TextIds
import ApiContract.Proofs.SinglePayload
import ApiContract.Proofs.RequestLookup
import ApiContract.Proofs.GeneratedNames
import ApiContract.Proofs.ElementTags
import ApiContract.Proofs.PayloadCounts
import ApiContract.Proofs.FlagLaws
import ApiContract.Proofs.CamelCase
import ApiContract.Proofs.VariantNames
import ApiContract.Proofs.TokenInsertion
import ApiContract.Proofs.SnakeCase
import ApiContract.Proofs.FieldNames
import ApiContract.Proofs.Hexadecimal
import ApiContract.Proofs.TomlTexts
import ApiContract.Proofs.TomlSettings
import ApiContract.Proofs.YamlTexts
import ApiContract.Proofs.YamlStyles
import ApiContract.Proofs.YamlLines
import ApiContract.Proofs.YamlSettings
import ApiContract.Proofs.SavedConfigs
