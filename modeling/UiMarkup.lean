import UiMarkup.Main
import UiMarkup.Proofs.Markup.Steps
import UiMarkup.Proofs.Markup.Completeness
import UiMarkup.Proofs.Markup.Layout
import UiMarkup.Proofs.Markup.Printing
import UiMarkup.Proofs.Component.Cancellation
import UiMarkup.Proofs.Component.Commands
import UiMarkup.Proofs.Cache.Freshness
import UiMarkup.Proofs.Component.Building
import UiMarkup.Proofs.Component.Dependence
import UiMarkup.Proofs.Component.Acceptance
import UiMarkup.Proofs.Component.Shape
import UiMarkup.Proofs.Component.Marks
import UiMarkup.Proofs.Component.Tidiness
import UiMarkup.Proofs.Component.Brackets
import UiMarkup.Proofs.Watcher.Index
import UiMarkup.Proofs.Watcher.Reports
import UiMarkup.Proofs.Component.Qualification
import UiMarkup.Proofs.Component.ShownText
import UiMarkup.Proofs.Script.Written
import UiMarkup.Proofs.Command.Precedence
import UiMarkup.Proofs.Files.Path
import UiMarkup.Proofs.Command.Check
import UiMarkup.Proofs.Component.Numbers
import UiMarkup.Proofs.Text.Lines
import UiMarkup.Proofs.Markup.Places
import UiMarkup.Proofs.Script.FaultyLine
import UiMarkup.Proofs.Markup.Descent
import UiMarkup.Proofs.Markup.Nesting
import UiMarkup.Proofs.Component.Correspondence
import UiMarkup.Proofs.Component.StyleBlocks
import UiMarkup.Proofs.Decimal.Numerals
import UiMarkup.Proofs.Component.Boxes
import UiMarkup.Proofs.Script.Substitution
import UiMarkup.Proofs.Script.Appended
import UiMarkup.Proofs.Decimal.Digits
import UiMarkup.Proofs.Markup.Escaping
import UiMarkup.Proofs.Component.Ownership
import UiMarkup.Proofs.Picture.Size
import UiMarkup.Proofs.Picture.Drawing
import UiMarkup.Proofs.Script.Spellings
import UiMarkup.Proofs.Cache.Eviction
import UiMarkup.Proofs.Cache.Keys
import UiMarkup.Proofs.Component.LetterCase
import UiMarkup.Proofs.Component.Compatibility
import UiMarkup.Proofs.Component.PropertyNames
import UiMarkup.Proofs.Markup.Advance
import UiMarkup.Proofs.Component.Colors
