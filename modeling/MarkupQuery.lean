import MarkupQuery.Engine
import MarkupQuery.Journal.Message
import MarkupQuery.Journal.Record
import MarkupQuery.Proofs.Selector.Chain
import MarkupQuery.Proofs.Selector.Grammar
import MarkupQuery.Proofs.Tree.DocumentOrder
import MarkupQuery.Proofs.Tree.Place
import MarkupQuery.Settings.Loading
import MarkupQuery.Settings.Standard
import MarkupQuery.Proofs.Selector.Memo
import MarkupQuery.Proofs.Extraction.Agreement
import MarkupQuery.Proofs.Session.Transparency
import MarkupQuery.Proofs.Extraction.Product
import MarkupQuery.Proofs.Extraction.Narrowing
import MarkupQuery.Proofs.Selection.Inquiry
import MarkupQuery.Proofs.Selection.Filter
import MarkupQuery.Proofs.Selector.Outlook
import MarkupQuery.Proofs.Markup.Shape
import MarkupQuery.Proofs.Selector.Ledger
import MarkupQuery.Proofs.Session.Confined
import MarkupQuery.Proofs.Extraction.Confined
import MarkupQuery.Proofs.Engine.Isolation
import MarkupQuery.Proofs.Tree.EditingWalk
import MarkupQuery.Proofs.Tree.Enclosing
import MarkupQuery.Proofs.Engine.Counts
import MarkupQuery.Proofs.Settings.Fallback
import MarkupQuery.Proofs.Extraction.CharacterData
import MarkupQuery.Proofs.Selection.Stages
import MarkupQuery.Proofs.Selector.Nesting
import MarkupQuery.Proofs.Extraction.Compiling
import MarkupQuery.Proofs.Markup.Doctype
import MarkupQuery.Proofs.Markup.Fragment
import MarkupQuery.Proofs.Markup.Attributes
import MarkupQuery.Proofs.Selector.Label
import MarkupQuery.Proofs.Selector.Question
import MarkupQuery.Proofs.Selector.Climb
import MarkupQuery.Proofs.Extraction.LookUps
import MarkupQuery.Proofs.Selector.Boolean
import MarkupQuery.Proofs.Selector.Canonical
import MarkupQuery.Proofs.Tree.Cursor
import MarkupQuery.Proofs.Extraction.Members
import MarkupQuery.Proofs.Extraction.Warnings
import MarkupQuery.Proofs.Markup.Css.Agreement
