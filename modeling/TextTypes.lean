import TextTypes.CodeSet.Builder
import TextTypes.Conversion.Builder
import TextTypes.Messages
import TextTypes.Codes
import TextTypes.Numeral.Builder
import TextTypes.Pattern.Reader
import TextTypes.TextType.Builder
import TextTypes.Text.Units
import TextTypes.Unicode.Blank
import TextTypes.Unicode.Letters
import TextTypes.Unicode.Normal
import TextTypes.Pattern.Places
import TextTypes.Pattern.Search
import TextTypes.Proofs.Buckets
import TextTypes.Proofs.IntMap.Entries
import TextTypes.Proofs.Text.Units
import TextTypes.Proofs.TextType.Pieces
import TextTypes.Proofs.TextType.Modes
import TextTypes.Proofs.IntMap.Frozen
import TextTypes.Proofs.IntMap.Sequences
import TextTypes.Proofs.Conversion.Tries
import TextTypes.Proofs.Conversion.Scanning
import TextTypes.Proofs.Conversion.Substitution
import TextTypes.Proofs.Conversion.Tiling
import TextTypes.Proofs.Conversion.Building
import TextTypes.Proofs.Bisect
import TextTypes.Proofs.Range.Spans
import TextTypes.Proofs.Range.Tiers
import TextTypes.Proofs.Unicode.Categories
import TextTypes.Proofs.CodeSet.Blocks
import TextTypes.Proofs.CodeSet.Layouts
import TextTypes.Proofs.CodeSet.Transforms
import TextTypes.Proofs.CodeSet.Building
import TextTypes.Proofs.CodeSet.Calls
import TextTypes.Proofs.CodeSet.Built
import TextTypes.Proofs.CodeSet.Sizes
import TextTypes.Proofs.CodeSet.Spreads
import TextTypes.Proofs.CodeSet.Costs
import TextTypes.Proofs.IntMap.Histories
import TextTypes.Proofs.IntMap.Slots
import TextTypes.Proofs.IntMap.Listing
import TextTypes.Proofs.Numeral.Digits
import TextTypes.Proofs.Numeral.Reading
import TextTypes.Proofs.TextType.Outputs
import TextTypes.Proofs.TextType.Building
import TextTypes.Proofs.TextType.Conversion
import TextTypes.Proofs.Unicode.Normal
import TextTypes.Proofs.Codes
import TextTypes.Proofs.Range.Words
import TextTypes.Proofs.CodeSet.Words
import TextTypes.Proofs.Unicode.Letters
import TextTypes.Proofs.Unicode.Blank
import TextTypes.Proofs.TextType.Drafts
import TextTypes.Proofs.TextType.Casing
import TextTypes.Proofs.TextType.Sizes
import TextTypes.Proofs.TextType.Spacing
import TextTypes.Proofs.TextType.Coverage
import TextTypes.Proofs.TextType.Rejections
import TextTypes.Proofs.TextType.Margins
import TextTypes.Proofs.TextType.Nulls
import TextTypes.Proofs.TextType.Rereading
import TextTypes.Proofs.Numeral.Writing
import TextTypes.Proofs.TextType.Calls
import TextTypes.Proofs.Pattern.Places
import TextTypes.Proofs.Pattern.Matches
import TextTypes.Proofs.Pattern.Local
import TextTypes.Proofs.Pattern.Readers
import TextTypes.Proofs.Pattern.Anchors
import TextTypes.Proofs.TextType.Patterns
import TextTypes.Proofs.Conversion.Queries
import TextTypes.Proofs.Messages
import TextTypes.Proofs.Literals
import TextTypes.Proofs.Numeral.Forms
import TextTypes.Proofs.CodeSet.Outside
import TextTypes.Proofs.Rounds
import TextTypes.Proofs.Conversion.Committing
import TextTypes.Proofs.Range.Vectors
import TextTypes.Proofs.Range.Removal
import TextTypes.Proofs.Range.Merging
import TextTypes.Proofs.IntMap.Columns
import TextTypes.Proofs.IntMap.Repacking
import TextTypes.Proofs.Rows
import TextTypes.Proofs.IntMap.Rows
import TextTypes.Proofs.CodeSet.Rows
