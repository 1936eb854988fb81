import CondCss.Assoc
import CondCss.Media.Length
import CondCss.Media.Query
import CondCss.Occurrence

/-!
# Hosts

A host is what conditions are asked of: a viewport, discrete features of the device, supported
features of the style language, and computed styles. The answer to a media query may be fixed, and
each of the questions may be one that the host cannot answer.
-/

namespace CondCss

/-- The questions that a host can fail to answer. -/
inductive Oracle where
  | matchMedia
  | supports
  | supportsDeclaration
  | computedStyle
  deriving DecidableEq, Repr

namespace Oracle

/-- The name of a question. -/
def name : Oracle → String
  | matchMedia => "match_media"
  | supports => "supports"
  | supportsDeclaration => "supports_declaration"
  | computedStyle => "computed_style"

/-- What is said when a question gets no answer. -/
def message (o : Oracle) : String :=
  o.name ++ " unavailable"

/-- The question of that name. -/
def ofName? (name : String) : Option Oracle :=
  [matchMedia, supports, supportsDeclaration, computedStyle].find? (·.name == name)

end Oracle

/-- The state of a host. -/
structure Host where
  /-- Width of the viewport, in pixels. -/
  width : Int := 1024
  /-- Height of the viewport, in pixels. -/
  height : Int := 768
  /-- Values of discrete media features. -/
  environment : List (Text × Text) :=
    [("prefers-color-scheme".toList, "light".toList),
     ("prefers-reduced-motion".toList, "no-preference".toList),
     ("hover".toList, "hover".toList),
     ("pointer".toList, "fine".toList)]
  /-- Fixed answers to media queries in normal form. -/
  overrides : List (Text × Bool) := []
  /-- Supported features, in the normal form of queries. -/
  features : List Text := []
  /-- Computed styles of the root. -/
  styles : List (Text × Text) := []
  /-- Computed styles of elements, by element and property. -/
  elementStyles : List ((Text × Text) × Text) := []
  /-- Whether conditional values need no evaluation here. -/
  nativeIf : Bool := false
  /-- The questions that get no answer. -/
  failing : List Oracle := []
  deriving DecidableEq, Repr

namespace Host

/-- Sets the value of a discrete media feature. -/
def setEnvironment (feature value : Text) (h : Host) : Host :=
  { h with environment := Assoc.insert feature value h.environment }

/-- Fixes the answer to a media query. -/
def setMedia (query : Text) (isMatch : Bool) (h : Host) : Host :=
  { h with overrides := Assoc.insert (Media.normalize query) isMatch h.overrides }

/-- Sets a computed style of the root or of an element. -/
def setStyle (property value : Text) (element : Option Text) (h : Host) : Host :=
  match element with
  | none => { h with styles := Assoc.insert property value h.styles }
  | some e => { h with elementStyles := Assoc.insert (e, property) value h.elementStyles }

/-- Changes the viewport; a missing height stays as it is. -/
def resize (width : Int) (height : Option Int) (h : Host) : Host :=
  { h with width, height := height.getD h.height }

/-- Adds a supported feature. -/
def addFeature (feature : Text) (h : Host) : Host :=
  { h with features := h.features ++ [Media.normalize feature] }

/-- Values of a discrete feature that count as its absence. -/
def absentValues : List Text :=
  ["none".toList, "no-preference".toList, "0".toList]

/-- Whether a feature named without a value is present. -/
def hasFeature (h : Host) (name : Text) : Bool :=
  if [['a', 'l', 'l'], "screen".toList, "width".toList, "height".toList].contains name then true
  else (h.environment.lookup name).any fun value => !absentValues.contains value

/-- How a dimension is compared with a length. -/
inductive Range where
  | exactly
  | atLeast
  | atMost
  deriving DecidableEq, Repr

/-- Whether a comparison turned out as asked. -/
def Range.accepts : Range → Ordering → Bool
  | exactly, o => o == .eq
  | atLeast, o => o != .lt
  | atMost, o => o != .gt

/-- The comparison that the start of a feature's name asks for, and the rest of the name. -/
def cutRange (name : Text) : Range × Text :=
  match Text.after? ['m', 'i', 'n', '-'] name, Text.after? ['m', 'a', 'x', '-'] name with
  | some rest, _ => (.atLeast, rest)
  | none, some rest => (.atMost, rest)
  | none, none => (.exactly, name)

/-- The dimension of the viewport with this name. -/
def dimension? (h : Host) (name : Text) : Option Int :=
  if name == "width".toList then some h.width
  else if name == "height".toList then some h.height
  else none

/-- The name of the viewport's orientation; a square is upright. -/
def orientation (h : Host) : Text :=
  if h.width ≤ h.height then "portrait".toList else "landscape".toList

/-- Whether a feature has a value. -/
def featureIs (h : Host) (name value : Text) : Bool :=
  let (range, bare) := cutRange name
  match h.dimension? bare with
  | some actual => (Media.Length.read? value).any fun l => range.accepts (l.compareTo actual)
  | none =>
    if bare == "orientation".toList then Text.lower value == h.orientation
    else h.environment.lookup bare == some value

/-- Evaluates a query that is a single feature. -/
def evaluateFeature (h : Host) (s : Text) : Bool :=
  match Text.cutAt? ':' s with
  | none => h.hasFeature (Text.lower s)
  | some (name, value) => h.featureIs (Text.lower (Text.trim name)) (Text.trim value)

/-- Evaluates a media query, at most `fuel` levels deep; `none` if that is not enough. -/
def evaluateWithin (h : Host) : (fuel : Nat) → (query : Text) → Option Bool
  | 0, _ => none
  | fuel + 1, query =>
    let s := Media.normalize query
    match h.overrides.lookup s with
    | some answer => some answer
    | none =>
      match Media.shape s with
      | .anyOf parts => parts.anyM (h.evaluateWithin fuel)
      | .allOf parts => parts.allM (h.evaluateWithin fuel)
      | .negation part => (h.evaluateWithin fuel part).map (!·)
      | .feature s => some (h.evaluateFeature s)

/-- Evaluates a media query. Each level of its structure takes a character that is no blank from
    it, so the levels are counted by these characters; a query whose parts never get smaller has no
    answer. -/
def evaluate? (h : Host) (query : Text) : Option Bool :=
  h.evaluateWithin (query.countP (!Text.isBlank ·) + 2) query

/-- Whether a media query matches; one without an answer does not. -/
def isMatch (h : Host) (query : Text) : Bool :=
  (h.evaluate? query).getD false

/-- Asks a question, unless the host cannot answer it. -/
def ask {α : Type} (h : Host) (o : Oracle) (answer : α) : Except Oracle α :=
  if h.failing.contains o then .error o else .ok answer

/-- Whether a media query matches. -/
def matchMedia (h : Host) (query : Text) : Except Oracle Bool :=
  h.ask .matchMedia (h.isMatch query)

/-- Whether a feature of the style language is supported. -/
def supports (h : Host) (condition : Text) : Except Oracle Bool :=
  h.ask .supports (h.features.contains (Media.normalize condition))

/-- Whether a declaration is supported; for one with a conditional value, whether these are. -/
def supportsDeclaration (h : Host) (property value : Text) : Except Oracle Bool :=
  h.ask .supportsDeclaration
    (if Text.hasInfix Occurrence.token value then h.nativeIf
     else h.features.contains (Media.normalize (property ++ [':', ' '] ++ value)))

/-- The computed value of a property; empty if there is none. -/
def computedStyle (h : Host) (element : Option Text) (property : Text) : Except Oracle Text :=
  let own := element.bind fun e => h.elementStyles.lookup (e, property)
  h.ask .computedStyle ((own.orElse fun _ => h.styles.lookup property).getD [])

end Host
end CondCss
