import QuantEngine.Library.Dict
import QuantEngine.Library.Extended
import QuantEngine.Library.JsonText
import QuantEngine.Library.Text

set_option autoImplicit false

namespace QuantEngine.Metrics

open Text (joinChars)

abbrev LabelValues := List (String × String)

def identifierStart (colon : Bool) (c : Char) : Bool := c.isAlpha || c = '_' || (colon && c = ':')

def identifierPart (colon : Bool) (c : Char) : Bool := identifierStart colon c || c.isDigit

def identifier (colon : Bool) (chars : List Char) : Bool :=
  match chars with
  | [] => false
  | c :: rest => identifierStart colon c && rest.all (identifierPart colon)

-- The `$` of the patterns also matches before a line feed that ends the text.
def matched (colon : Bool) (name : String) : Bool :=
  identifier colon name.toList ||
    (decide (name.toList.getLast? = some '\n') && identifier colon name.toList.dropLast)

def validName (name : String) : Bool := matched true name

def validLabel (name : String) : Bool := matched false name

def pairLe (a b : String × String) : Bool := decide (a.1 < b.1) || (decide (a.1 = b.1) && decide (a.2 ≤ b.2))

def normalize (labels : Option (Dict String String)) : Except PyError LabelValues :=
  match labels with
  | none => .ok []
  | some labels =>
      if labels.keys.all validLabel then .ok (labels.entries.mergeSort pairLe) else .error .value

def escape (value : String) : List Char :=
  Quoted.replace '\n' ['\\', 'n'] (Quoted.replace '"' ['\\', '"'] (Quoted.replace '\\' ['\\', '\\'] value.toList))

def renderPair (pair : String × String) : List Char := pair.1.toList ++ '=' :: '"' :: (escape pair.2 ++ ['"'])

def renderLabels (labels : LabelValues) (extra : Option (String × String)) : String :=
  let pairs := labels ++ extra.toList
  if pairs.isEmpty then "" else String.ofList ('{' :: (joinChars ',' (pairs.map renderPair) ++ ['}']))

-- `repr` of a float that is a number.
variable (repr : ℚ → String)

def renderValue (value : Extended) : String :=
  match value with
  | .infinite negative => if negative then "-Inf" else "+Inf"
  | .nan => "NaN"
  | .finite value => repr value

-- A line of a metric, before it is put together.
structure Sample where
  name : String
  labels : LabelValues
  extra : Option (String × String)
  value : String
deriving DecidableEq

def Sample.line (sample : Sample) : String :=
  sample.name ++ renderLabels sample.labels sample.extra ++ " " ++ sample.value

structure Histogram where
  name : String
  buckets : List Extended
  counts : Dict LabelValues (List Nat) := .empty
  sums : Dict LabelValues Extended := .empty

namespace Histogram

def new (name : String) (buckets : List Extended) : Except PyError Histogram :=
  if validName name then .ok { name := name, buckets := buckets.mergeSort Extended.le ++ [.infinite false] }
  else .error .value

def counted (value : Extended) (buckets : List Extended) (counts : List Nat) : List Nat :=
  List.zipWith (fun bound count => if value.le bound then count + 1 else count) buckets counts

def observe (histogram : Histogram) (value : Extended) (labels : Option (Dict String String)) :
    Except PyError Histogram :=
  match normalize labels with
  | .error error => .error error
  | .ok key =>
      let counts := (histogram.counts.lookup key).getD (List.replicate histogram.buckets.length 0)
      .ok { histogram with
        sums := histogram.sums.insert key (((histogram.sums.lookup key).getD (.finite 0)).add value)
        counts := histogram.counts.insert key (counted value histogram.buckets counts) }

def keyLe : LabelValues → LabelValues → Bool
  | [], _ => true
  | _ :: _, [] => false
  | a :: first, b :: second => if a = b then keyLe first second else pairLe a b

-- A histogram has a sum wherever it has counts.
def samplesOf (histogram : Histogram) (entry : LabelValues × List Nat) : List Sample :=
  List.zipWith (fun bound count =>
      ⟨histogram.name ++ "_bucket", entry.1, some ("le", renderValue repr bound), toString count⟩)
    histogram.buckets entry.2 ++
  [⟨histogram.name ++ "_sum", entry.1, none, renderValue repr ((histogram.sums.lookup entry.1).getD (.finite 0))⟩,
    ⟨histogram.name ++ "_count", entry.1, none, toString (entry.2.getLast?.getD 0)⟩]

def samples (histogram : Histogram) : List Sample :=
  (histogram.counts.entries.mergeSort (fun a b => keyLe a.1 b.1)).flatMap (histogram.samplesOf repr)

def render (histogram : Histogram) : List String := (histogram.samples repr).map Sample.line

end Histogram

end QuantEngine.Metrics
