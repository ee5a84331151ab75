/-!
# Tokens, their classes and the categories of rules

A token is a run of source text with an optional class.  A category says what kind of source a rule
looks for; rules are tried in the order of their categories, and each category has the class that
its matches get by default.
-/

namespace Tint

/-- What a classified token is.  The names are part of the output. -/
inductive TokenClass where
  | comment | keyword | type | function | builtin | string | number
  | operator | var | property | tag | attr | decorator | punctuation
  deriving DecidableEq, Repr

namespace TokenClass

/-- All classes. -/
def all : List TokenClass :=
  [comment, keyword, type, function, builtin, string, number, operator, var, property, tag, attr,
    decorator, punctuation]

/-- The name of a class in markup and configuration. -/
def name : TokenClass → String
  | comment => "comment"
  | keyword => "keyword"
  | type => "type"
  | function => "function"
  | builtin => "builtin"
  | string => "string"
  | number => "number"
  | operator => "operator"
  | var => "variable"
  | property => "property"
  | tag => "tag"
  | attr => "attribute"
  | decorator => "decorator"
  | punctuation => "punctuation"

/-- The class with a name. -/
def ofName? (name : String) : Option TokenClass :=
  all.find? (·.name == name)

theorem ofName?_eq_some_iff {name : String} {tokenClass : TokenClass} :
    ofName? name = some tokenClass ↔ name = tokenClass.name := by
  constructor
  · intro found
    have named := List.find?_some (p := fun other : TokenClass => other.name == name) found
    exact (beq_iff_eq.mp named).symm
  · rintro rfl
    cases tokenClass <;> decide

end TokenClass

/-- What kind of source a rule looks for. -/
inductive Category where
  | comments | properties | strings | keywords | types | builtins | functions | cmdlets | numbers
  | operators | vars | attributes | decorators | tags | cdata | headers | bold | italic | links
  | lists | blockquotes | code | punctuation | selectors | values | units | colors
  deriving DecidableEq, Repr

namespace Category

/-- All categories in the order in which their rules are tried. -/
def precedence : List Category :=
  [comments, properties, strings, keywords, types, builtins, functions, cmdlets, numbers, operators,
    vars, attributes, decorators, tags, cdata, headers, bold, italic, links, lists, blockquotes,
    code, punctuation, selectors, values, units, colors]

/-- The place of a category in the order of precedence. -/
def rank (category : Category) : Nat :=
  precedence.idxOf category

/-- The name of a category in configuration. -/
def name : Category → String
  | comments => "comments"
  | properties => "properties"
  | strings => "strings"
  | keywords => "keywords"
  | types => "types"
  | builtins => "builtins"
  | functions => "functions"
  | cmdlets => "cmdlets"
  | numbers => "numbers"
  | operators => "operators"
  | vars => "variables"
  | attributes => "attributes"
  | decorators => "decorators"
  | tags => "tags"
  | cdata => "cdata"
  | headers => "headers"
  | bold => "bold"
  | italic => "italic"
  | links => "links"
  | lists => "lists"
  | blockquotes => "blockquotes"
  | code => "code"
  | punctuation => "punctuation"
  | selectors => "selectors"
  | values => "values"
  | units => "units"
  | colors => "colors"

/-- The category with a name. -/
def ofName? (name : String) : Option Category :=
  precedence.find? (·.name == name)

/-- The class that the matches of a category get unless their rule says otherwise. -/
def defaultClass : Category → TokenClass
  | keywords | headers | bold => .keyword
  | types | selectors => .type
  | functions | cmdlets | links => .function
  | builtins => .builtin
  | strings | code | cdata | values | colors => .string
  | comments | blockquotes => .comment
  | numbers | units => .number
  | operators | lists => .operator
  | vars | italic => .var
  | properties => .property
  | tags => .tag
  | attributes => .attr
  | decorators => .decorator
  | punctuation => .punctuation

theorem rank_injective {first second : Category} (same : first.rank = second.rank) :
    first = second := by
  revert same
  cases first <;> cases second <;> decide

theorem ofName?_eq_some_iff {name : String} {category : Category} :
    ofName? name = some category ↔ name = category.name := by
  constructor
  · intro found
    have named := List.find?_some (p := fun other : Category => other.name == name) found
    exact (beq_iff_eq.mp named).symm
  · rintro rfl
    cases category <;> decide

end Category

/-- A run of source text and its class; plain text has none. -/
structure Token where
  tokenClass : Option TokenClass
  text : String
  deriving DecidableEq, Repr

namespace Token

/-- Plain text. -/
def plain (text : String) : Token :=
  ⟨none, text⟩

/-- Text of a class. -/
def classified (tokenClass : TokenClass) (text : String) : Token :=
  ⟨some tokenClass, text⟩

end Token

end Tint
