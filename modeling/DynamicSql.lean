import DynamicSql.Main
import DynamicSql.Proofs.Delimited.Escaping
import DynamicSql.Proofs.Expr.Completeness
import DynamicSql.Proofs.Node.Minting
import DynamicSql.Proofs.Placeholder.Renaming
import DynamicSql.Proofs.Template.Expansion
import DynamicSql.Proofs.Template.Filtering
import DynamicSql.Proofs.Template.Nesting
import DynamicSql.Proofs.Node.Alike
import DynamicSql.Proofs.Template.Grouping
import DynamicSql.Proofs.Node.Frame
import DynamicSql.Proofs.Text.Ascii
import DynamicSql.Proofs.Node.Trim
import DynamicSql.Proofs.Node.Where
import DynamicSql.Proofs.Delimited.Literal
import DynamicSql.Proofs.Node.Verbatim
import DynamicSql.Proofs.Node.Clause
import DynamicSql.Proofs.Node.Set
import DynamicSql.Proofs.Node.Current
import DynamicSql.Proofs.Properties
import DynamicSql.Proofs.Fragment.Scanning
import DynamicSql.Proofs.Node.Innermost
import DynamicSql.Proofs.Node.Separation
import DynamicSql.Proofs.Delimited.Replacing
import DynamicSql.Proofs.Expr.Spelling
import DynamicSql.Proofs.Placeholder.Attributes
import DynamicSql.Proofs.Placeholder.Grammar
import DynamicSql.Proofs.Placeholder.Rendering
import DynamicSql.Proofs.Eval.Integers
import DynamicSql.Proofs.Expr.Parens
import DynamicSql.Proofs.Placeholder.Enclosed
import DynamicSql.Proofs.Pattern.Anchored
import DynamicSql.Proofs.Template.Matching
import DynamicSql.Proofs.Expr.Names
import DynamicSql.Proofs.Template.Naming
import DynamicSql.Proofs.Number.Whole
import DynamicSql.Proofs.Value.Equality
import DynamicSql.Proofs.Eval.Equality
import DynamicSql.Proofs.Number.Vanishing
import DynamicSql.Proofs.Eval.Truth
import DynamicSql.Proofs.Value.Conversion
import DynamicSql.Proofs.Directive.RoundTrip
import DynamicSql.Proofs.Template.EntryNames
import DynamicSql.Proofs.Expr.Positions
import DynamicSql.Proofs.Eval.Renaming
