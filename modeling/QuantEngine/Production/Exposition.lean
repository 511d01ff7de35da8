import QuantEngine.Library.Ranking
import QuantEngine.Production.Metrics

set_option autoImplicit false

namespace QuantEngine.Metrics

open Text (joinChars)

-- One label after another, up to the closing brace.
def readPairs : Nat → List Char → Option (LabelValues × List Char)
  | 0, _ => none
  | count + 1, chars =>
      let name := String.ofList (chars.takeWhile (fun c => c != '='))
      match chars.dropWhile (fun c => c != '=') with
      | '=' :: '"' :: quoted =>
          match Quoted.readQuoted quoted with
          | some (value, ',' :: others) =>
              (readPairs count others).map (fun read => ((name, String.ofList value) :: read.1, read.2))
          | some (value, '}' :: after) => some ([(name, String.ofList value)], after)
          | _ => none
      | _ => none

def inName (c : Char) : Bool := c != '{' && c != ' '

-- The metric's name, the labels and the text of the value, back from a line.
def decode (line : String) : Option (String × LabelValues × String) :=
  let name := String.ofList (line.toList.takeWhile inName)
  match line.toList.dropWhile inName with
  | ' ' :: value => some (name, [], String.ofList value)
  | '{' :: labels =>
      match readPairs labels.length labels with
      | some (pairs, ' ' :: value) => some (name, pairs, String.ofList value)
      | _ => none
  | _ => none

def Sample.pairs (sample : Sample) : LabelValues := sample.labels ++ sample.extra.toList

def EndsLine (name : String) : Prop := name.toList.getLast? = some '\n'

theorem take_while_stop {α : Type} (p : α → Bool) (before rest : List α) (stop : α) (all : ∀ a ∈ before, p a = true)
    (ends : p stop = false) : (before ++ stop :: rest).takeWhile p = before ∧ (before ++ stop :: rest).dropWhile p = stop :: rest := by
  induction before with
  | nil => simp [ends]
  | cons a before ih =>
      have first := all a List.mem_cons_self
      obtain ⟨taken, dropped⟩ := ih (fun b member => all b (List.mem_cons_of_mem _ member))
      simp [first, taken, dropped]

section

variable (colon : Bool)

theorem identifier_chars (chars : List Char) (named : identifier colon chars = true) : chars.all (identifierPart colon) = true := by
  cases chars with
  | nil => rfl
  | cons c rest =>
      rw [identifier, Bool.and_eq_true] at named
      rw [List.all_cons, identifierPart, named.1, named.2]
      rfl

-- Of the marks of the format none is part of a name.
theorem part_plain (c : Char) (part : identifierPart colon c = true) :
    c ≠ '\n' ∧ c ≠ '{' ∧ c ≠ ' ' ∧ c ≠ '=' := by
  refine ⟨?_, ?_, ?_, ?_⟩ <;> rintro rfl <;> cases colon <;> revert part <;> decide

theorem matched_chars (name : String) (valid : matched colon name = true) :
    (∀ c ∈ name.toList, identifierPart colon c = true ∨ c = '\n') ∧ ('\n' ∈ name.toList → EndsLine name) := by
  rw [matched, Bool.or_eq_true, Bool.and_eq_true] at valid
  rcases valid with whole | ⟨ends, before⟩
  · have parts := List.all_eq_true.mp (identifier_chars colon _ whole)
    exact ⟨fun c member => .inl (parts c member), fun line => ((part_plain colon _ (parts _ line)).1 rfl).elim⟩
  · have parts := List.all_eq_true.mp (identifier_chars colon _ before)
    have last := of_decide_eq_true ends
    refine ⟨fun c member => ?_, fun _ => last⟩
    obtain ⟨front, split⟩ := List.getLast?_eq_some_iff.mp last
    rw [split, List.dropLast_concat] at parts
    rw [split] at member
    exact (List.mem_append.mp member).imp (parts c) List.mem_singleton.mp

end

-- A name as the checks let it pass, with or without a metric's suffix.
structure Clear (name : String) : Prop where
  brace : '{' ∉ name.toList
  blank : ' ' ∉ name.toList
  equals : '=' ∉ name.toList

theorem matched_clear (colon : Bool) (name : String) (valid : matched colon name = true) : Clear name := by
  have chars := (matched_chars colon name valid).1
  have absent (mark : Char) (foreign : ∀ c, identifierPart colon c = true ∨ c = '\n' → c ≠ mark) : mark ∉ name.toList :=
    fun member => foreign mark (chars mark member) rfl
  refine ⟨absent '{' ?_, absent ' ' ?_, absent '=' ?_⟩
  · rintro c (part | rfl)
    · exact (part_plain colon c part).2.1
    · decide
  · rintro c (part | rfl)
    · exact (part_plain colon c part).2.2.1
    · decide
  · rintro c (part | rfl)
    · exact (part_plain colon c part).2.2.2
    · decide

theorem Clear.append {name : String} (clear : Clear name) (suffix : String)
    (parts : ∀ c ∈ suffix.toList, identifierPart true c = true) : Clear (name ++ suffix) := by
  have absent (mark : Char) (before : mark ∉ name.toList) (foreign : ∀ c, identifierPart true c = true → c ≠ mark) :
      mark ∉ (name ++ suffix).toList := by
    rw [String.toList_append, List.mem_append, not_or]
    exact ⟨before, fun member => foreign mark (parts mark member) rfl⟩
  exact ⟨absent '{' clear.brace (fun c part => (part_plain true c part).2.1),
    absent ' ' clear.blank (fun c part => (part_plain true c part).2.2.1),
    absent '=' clear.equals (fun c part => (part_plain true c part).2.2.2)⟩

theorem read_pairs (pairs : LabelValues) (some_pair : pairs ≠ []) (clear : ∀ pair ∈ pairs, Clear pair.1) (count : Nat)
    (enough : pairs.length ≤ count) (after : List Char) :
    readPairs count (joinChars ',' (pairs.map renderPair) ++ '}' :: after) = some (pairs, after) := by
  induction pairs generalizing count with
  | nil => exact (some_pair rfl).elim
  | cons pair rest ih =>
      obtain ⟨name, value⟩ := pair
      cases count with
      | zero => cases enough
      | succ count =>
          have plain : ∀ c ∈ name.toList, (c != '=') = true := by
            intro c member
            exact bne_iff_ne.mpr (fun same => (clear (name, value) List.mem_cons_self).equals (same ▸ member))
          have quoted (more : List Char) : Quoted.readQuoted (escape value ++ '"' :: more) = some (value.toList, more) := by
            rw [escape, Quoted.replace_thrice]
            exact Quoted.read_quoted _ _
          have split (more : List Char) := take_while_stop (fun c => c != '=') name.toList
            ('"' :: (escape value ++ '"' :: more)) '=' plain rfl
          cases rest with
          | nil =>
              have text : joinChars ',' ([(name, value)].map renderPair) ++ '}' :: after =
                  name.toList ++ '=' :: '"' :: (escape value ++ '"' :: '}' :: after) := by
                simp [joinChars, renderPair]
              rw [text, readPairs, (split _).1, (split _).2]
              simp [quoted]
          | cons next others =>
              have onward := ih (List.cons_ne_nil _ _) (fun pair member => clear pair (List.mem_cons_of_mem _ member)) count
                (Nat.le_of_succ_le_succ enough)
              have text : joinChars ',' (((name, value) :: next :: others).map renderPair) ++ '}' :: after =
                  name.toList ++ '=' :: '"' :: (escape value ++ '"' :: ',' ::
                    (joinChars ',' ((next :: others).map renderPair) ++ '}' :: after)) := by
                simp [joinChars, renderPair]
              rw [text, readPairs, (split _).1, (split _).2]
              simp only [quoted, String.ofList_toList]
              rw [onward]
              rfl

theorem pair_length (pairs : LabelValues) : pairs.length ≤ (joinChars ',' (pairs.map renderPair)).length := by
  induction pairs with
  | nil => exact Nat.le_refl 0
  | cons pair rest ih =>
      cases rest with
      | nil =>
          simp only [List.map_cons, List.map_nil, joinChars, renderPair, List.length_append, List.length_cons, List.length_nil]
          omega
      | cons next others =>
          simp only [List.map_cons, joinChars, List.length_append, List.length_cons] at ih ⊢
          omega

theorem labels_decoded (name value : String) (labels : LabelValues) (extra : Option (String × String)) (named : Clear name)
    (clear : ∀ pair ∈ labels ++ extra.toList, Clear pair.1) :
    decode (Sample.line ⟨name, labels, extra, value⟩) = some (name, labels ++ extra.toList, value) := by
  have plain : ∀ c ∈ name.toList, inName c = true := by
    intro c member
    rw [inName, Bool.and_eq_true, bne_iff_ne, bne_iff_ne]
    exact ⟨fun same => named.brace (same ▸ member), fun same => named.blank (same ▸ member)⟩
  rw [decode, Sample.line, renderLabels]
  dsimp only
  by_cases bare : (labels ++ extra.toList).isEmpty
  · obtain ⟨taken, dropped⟩ := take_while_stop inName name.toList value.toList ' ' plain rfl
    rw [if_pos bare, List.isEmpty_iff.mp bare]
    simp [taken, dropped]
  · have filled : labels ++ extra.toList ≠ [] := fun empty => bare (List.isEmpty_iff.mpr empty)
    generalize labels ++ extra.toList = pairs at bare filled clear ⊢
    obtain ⟨taken, dropped⟩ := take_while_stop inName name.toList
      (joinChars ',' (pairs.map renderPair) ++ '}' :: ' ' :: value.toList) '{' plain rfl
    have text : (name ++ String.ofList ('{' :: (joinChars ',' (pairs.map renderPair) ++ ['}'])) ++ " " ++ value).toList =
        name.toList ++ '{' :: (joinChars ',' (pairs.map renderPair) ++ '}' :: ' ' :: value.toList) := by
      simp
    have read := read_pairs pairs filled clear (joinChars ',' (pairs.map renderPair) ++ '}' :: ' ' :: value.toList).length
      (by
        have length := pair_length pairs
        rw [List.length_append]
        omega) (' ' :: value.toList)
    rw [if_neg bare, text, taken, dropped]
    generalize joinChars ',' (pairs.map renderPair) ++ '}' :: ' ' :: value.toList = shown at read ⊢
    simp [read]

theorem normalized_names (labels : Option (Dict String String)) (key : LabelValues) (accepted : normalize labels = .ok key) :
    ∀ pair ∈ key, validLabel pair.1 = true := by
  intro pair member
  cases labels with
  | none =>
      rw [← Except.ok.inj accepted] at member
      cases member
  | some labels =>
      rw [normalize] at accepted
      split at accepted
      · rename_i valid
        rw [← Except.ok.inj accepted] at member
        have entry := List.mem_mergeSort.mp member
        exact List.all_eq_true.mp valid pair.1 (List.mem_map_of_mem entry)
      · cases accepted

theorem normalized_clear (labels : Option (Dict String String)) (key : LabelValues) (accepted : normalize labels = .ok key) :
    ∀ pair ∈ key, Clear pair.1 := fun pair member =>
  matched_clear false pair.1 (normalized_names labels key accepted pair member)

-- Distinct label sets are written differently.
def LabelsApart : Prop := ∀ first second a b, normalize first = .ok a → normalize second = .ok b →
  renderLabels a none = renderLabels b none → a = b

theorem labels_apart : LabelsApart := by
  intro first second a b left right same
  have empty : Clear "" := ⟨by decide, by decide, by decide⟩
  have decoded (labels : Option (Dict String String)) (key : LabelValues) (accepted : normalize labels = .ok key) :=
    labels_decoded "" "" key none empty (by
      rw [Option.toList_none, List.append_nil]
      exact normalized_clear labels key accepted)
  have one := decoded first a left
  have other := decoded second b right
  have lines : Sample.line ⟨"", a, none, ""⟩ = Sample.line ⟨"", b, none, ""⟩ := by
    rw [Sample.line, Sample.line, same]
  rw [lines, other] at one
  have pairs := congrArg (fun read => read.2.1) (Option.some.inj one)
  simpa using pairs.symm

section

variable (start : Histogram) (observations : List (Extended × Option (Dict String String)))

-- A call that raises leaves the histogram as it was.
def Histogram.record (histogram : Histogram) (observation : Extended × Option (Dict String String)) : Histogram :=
  match histogram.observe observation.1 observation.2 with
  | .ok later => later
  | .error _ => histogram

def Histogram.recordAll : Histogram := observations.foldl Histogram.record start

-- The values observed with these labels.
def observed (key : LabelValues) : List Extended :=
  (observations.filter (fun observation => decide (normalize observation.2 = .ok key))).map Prod.fst

def below (values : List Extended) (bound : Extended) : Nat := values.countP (fun value => value.le bound)

-- Each bucket counts the values up to its bound.
structure Tallied (histogram : Histogram) : Prop where
  name : histogram.name = start.name
  buckets : histogram.buckets = start.buckets
  counts : ∀ key, histogram.counts.lookup key =
    if observed observations key = [] then none else some (start.buckets.map (below (observed observations key)))
  sums : ∀ key, (histogram.sums.lookup key).isSome = (histogram.counts.lookup key).isSome

theorem counted_below (value : Extended) (buckets values : List Extended) :
    Histogram.counted value buckets (buckets.map (below values)) = buckets.map (below (values ++ [value])) := by
  rw [Histogram.counted, List.zipWith_map_right, List.zipWith_self]
  refine List.map_congr_left (fun bound _ => ?_)
  rw [below, below, List.countP_append, List.countP_singleton]
  split
  · rfl
  · rfl

theorem below_nothing (buckets : List Extended) : buckets.map (below []) = List.replicate buckets.length 0 :=
  List.eq_replicate_iff.mpr ⟨List.length_map _, fun count member => by
    obtain ⟨bound, _, rfl⟩ := List.mem_map.mp member
    rfl⟩

theorem observed_more (observation : Extended × Option (Dict String String)) (key : LabelValues) :
    observed (observations ++ [observation]) key =
      observed observations key ++ if normalize observation.2 = .ok key then [observation.1] else [] := by
  rw [observed, observed, List.filter_append, List.map_append]
  by_cases own : normalize observation.2 = .ok key
  · simp [own]
  · simp [own]

theorem record_tallied (histogram : Histogram) (observation : Extended × Option (Dict String String))
    (tallied : Tallied start observations histogram) :
    Tallied start (observations ++ [observation]) (histogram.record observation) := by
  rw [Histogram.record, Histogram.observe]
  cases accepted : normalize observation.2 with
  | error error =>
      refine ⟨tallied.name, tallied.buckets, fun key => ?_, tallied.sums⟩
      have same : observed (observations ++ [observation]) key = observed observations key := by
        rw [observed_more, accepted, if_neg (fun same => nomatch same), List.append_nil]
      rw [same]
      exact tallied.counts key
  | ok own =>
      refine ⟨tallied.name, tallied.buckets, fun key => ?_, fun key => ?_⟩
      · rw [observed_more, accepted]
        dsimp only
        rw [Dict.lookup_insert]
        by_cases here : key = own
        · have before : (histogram.counts.lookup own).getD (List.replicate histogram.buckets.length 0) =
              start.buckets.map (below (observed observations own)) := by
            rw [tallied.counts own, tallied.buckets]
            split
            · rename_i none_yet
              rw [none_yet, below_nothing]
              rfl
            · rfl
          subst here
          rw [if_pos rfl, if_pos rfl, before, tallied.buckets, counted_below, if_neg]
          simp
        · rw [if_neg here, if_neg (fun same => here (Except.ok.inj same).symm), List.append_nil]
          exact tallied.counts key
      · dsimp only
        rw [Dict.lookup_insert, Dict.lookup_insert]
        split
        · rfl
        · exact tallied.sums key

theorem records_tallied (buckets : List Extended) (name : String) (made : Histogram.new name buckets = .ok start) :
    Tallied start observations (start.recordAll observations) := by
  have run (done rest : List (Extended × Option (Dict String String))) (histogram : Histogram)
      (tallied : Tallied start done histogram) : Tallied start (done ++ rest) (rest.foldl Histogram.record histogram) := by
    induction rest generalizing done histogram with
    | nil => rwa [List.append_nil]
    | cons observation rest ih =>
        have onward := ih (done ++ [observation]) _ (record_tallied start done histogram observation tallied)
        rwa [List.append_assoc] at onward
  refine run [] observations start ⟨rfl, rfl, fun key => ?_, fun key => ?_⟩
  · rw [Histogram.new] at made
    split at made
    · rw [← Except.ok.inj made]
      rfl
    · cases made
  · rw [Histogram.new] at made
    split at made
    · rw [← Except.ok.inj made]
      rfl
    · cases made

end

theorem below_mono (values : List Extended) (a b : Extended) (upward : a.le b = true) : below values a ≤ below values b :=
  List.countP_mono_left (fun value _ under => Extended.trans_le value a b under upward)

theorem below_all (values : List Extended) (real : ∀ value ∈ values, value ≠ .nan) :
    below values (.infinite false) = values.length := by
  rw [below, List.countP_eq_length]
  intro value member
  cases value with
  | finite value => rfl
  | nan => exact (real _ member rfl).elim
  | infinite negative => simp [Extended.le]

theorem join_mem (c : Char) (parts : List (List Char)) : c ∈ joinChars ',' parts → c = ',' ∨ ∃ part ∈ parts, c ∈ part := by
  induction parts with
  | nil => exact fun member => nomatch member
  | cons part rest ih =>
      cases rest with
      | nil => exact fun member => .inr ⟨part, List.mem_singleton_self part, member⟩
      | cons next others =>
          intro member
          rw [joinChars, List.mem_append, List.mem_cons] at member
          rcases member with here | comma | later
          · exact .inr ⟨part, List.mem_cons_self, here⟩
          · exact .inl comma
          · refine (ih later).imp_right (fun found => ?_)
            obtain ⟨other, inside, there⟩ := found
            exact ⟨other, List.mem_cons_of_mem _ inside, there⟩

theorem mem_join (c : Char) (parts : List (List Char)) (part : List Char) (inside : part ∈ parts) (here : c ∈ part) :
    c ∈ joinChars ',' parts := by
  induction parts with
  | nil => cases inside
  | cons first rest ih =>
      cases rest with
      | nil => exact List.mem_singleton.mp inside ▸ here
      | cons next others =>
          rw [joinChars, List.mem_append, List.mem_cons]
          rcases List.mem_cons.mp inside with rfl | later
          · exact .inl here
          · exact .inr (.inr (ih later))

theorem pair_line_iff (pair : String × String) : '\n' ∈ renderPair pair ↔ '\n' ∈ pair.1.toList := by
  have value : '\n' ∉ escape pair.2 := by
    rw [escape, Quoted.replace_thrice]
    exact Quoted.escaped_on_one_line _
  simp [renderPair, value]

-- A line breaks just where a name in it does.
theorem line_iff (sample : Sample) (value : '\n' ∉ sample.value.toList) : '\n' ∈ sample.line.toList ↔
    '\n' ∈ sample.name.toList ∨ ∃ pair ∈ sample.pairs, '\n' ∈ pair.1.toList := by
  have labels : '\n' ∈ (renderLabels sample.labels sample.extra).toList ↔ ∃ pair ∈ sample.pairs, '\n' ∈ pair.1.toList := by
    rw [renderLabels, Sample.pairs]
    by_cases bare : (sample.labels ++ sample.extra.toList).isEmpty
    · rw [if_pos bare, List.isEmpty_iff.mp bare]
      simp
    · rw [if_neg bare]
      constructor
      · intro broken
        have inside : '\n' ∈ joinChars ',' ((sample.labels ++ sample.extra.toList).map renderPair) := by simpa using broken
        rcases join_mem _ _ inside with comma | ⟨part, member, here⟩
        · exact absurd comma (by decide)
        · obtain ⟨pair, known, rfl⟩ := List.mem_map.mp member
          exact ⟨pair, known, (pair_line_iff pair).mp here⟩
      · rintro ⟨pair, known, here⟩
        have inside := mem_join '\n' _ _ (List.mem_map_of_mem (f := renderPair) known) ((pair_line_iff pair).mpr here)
        simpa using inside
  rw [Sample.line, String.toList_append, String.toList_append, String.toList_append, List.mem_append, List.mem_append,
    List.mem_append, labels]
  simp [value]

section

variable (repr : ℚ → String)

-- Each line is one line, and it can be read back.
structure Exposed (histogram : Histogram) : Prop where
  oneLine : ∀ sample ∈ histogram.samples repr, '\n' ∉ sample.line.toList
  decoded : ∀ sample ∈ histogram.samples repr, decode sample.line = some (sample.name, sample.pairs, sample.value)

-- What is counted under the labels of these observations.
structure Consistent (histogram : Histogram) (observations : List (Extended × Option (Dict String String))) : Prop where
  ascending : histogram.buckets.Pairwise (fun a b => a.le b = true)
  unbounded : histogram.buckets.getLast? = some (.infinite false)
  keys : ∀ key, key ∈ histogram.counts.keys ↔ observed observations key ≠ []
  length : ∀ key counts, histogram.counts.lookup key = some counts → counts.length = histogram.buckets.length
  upward : ∀ key counts, histogram.counts.lookup key = some counts → counts.Pairwise (· ≤ ·)
  total : ∀ key counts, histogram.counts.lookup key = some counts →
    counts.getLast? = some (observed observations key).length
  rendered : ∀ key counts, histogram.counts.lookup key = some counts →
    ⟨histogram.name ++ "_count", key, none, toString (observed observations key).length⟩ ∈ histogram.samples repr

-- Neither the metric nor a label of an accepted observation has a name that ends
-- in a line feed.
def NamesOnOneLine (name : String) (observations : List (Extended × Option (Dict String String))) : Prop :=
  ∀ observation ∈ observations, ∀ key, normalize observation.2 = .ok key →
    ¬ EndsLine name ∧ ∀ pair ∈ key, ¬ EndsLine pair.1

variable (name : String) (buckets : List Extended) (start : Histogram) (made : Histogram.new name buckets = .ok start)
  (observations : List (Extended × Option (Dict String String)))

theorem new_shape (made : Histogram.new name buckets = .ok start) : validName name = true ∧ start.name = name ∧
    start.buckets = buckets.mergeSort Extended.le ++ [.infinite false] := by
  rw [Histogram.new] at made
  split at made
  · rename_i valid
    rw [← Except.ok.inj made]
    exact ⟨valid, rfl, rfl⟩
  · cases made

theorem observed_some (key : LabelValues) : observed observations key ≠ [] ↔
    ∃ observation ∈ observations, normalize observation.2 = .ok key := by
  rw [observed, ne_eq, List.map_eq_nil_iff, List.filter_eq_nil_iff]
  simp

theorem observed_real (real : ∀ observation ∈ observations, observation.1 ≠ .nan) (key : LabelValues) :
    ∀ value ∈ observed observations key, value ≠ .nan := by
  intro value member
  obtain ⟨observation, kept, rfl⟩ := List.mem_map.mp member
  exact real observation (List.mem_filter.mp kept).1

theorem mem_samples (histogram : Histogram) (key : LabelValues) (counts : List Nat)
    (held : histogram.counts.lookup key = some counts) (sample : Sample) (here : sample ∈ histogram.samplesOf repr (key, counts)) :
    sample ∈ histogram.samples repr :=
  List.mem_flatMap.mpr ⟨(key, counts), List.mem_mergeSort.mpr (Dict.lookup_mem _ _ _ held), here⟩

include made

theorem buckets_ascending (bounds : Extended.nan ∉ buckets) : start.buckets.Pairwise (fun a b => a.le b = true) := by
  have real : ∀ bound ∈ buckets, bound ≠ .nan := fun bound member same => bounds (same ▸ member)
  have sorted := Ranking.sorted_where Extended.le (fun bound => bound ≠ .nan) Extended.trans_le Extended.total_le buckets real
  rw [(new_shape name buckets start made).2.2]
  refine List.pairwise_append.mpr ⟨sorted, List.pairwise_singleton _ _, fun bound member last same => ?_⟩
  rw [List.mem_singleton.mp same]
  have known := real bound (List.mem_mergeSort.mp member)
  cases bound with
  | finite bound => rfl
  | nan => exact (known rfl).elim
  | infinite negative => simp [Extended.le]

theorem consistent (bounds : Extended.nan ∉ buckets) (real : ∀ observation ∈ observations, observation.1 ≠ .nan) :
    Consistent repr (start.recordAll observations) observations := by
  have tallied := records_tallied start observations buckets name made
  have ascending := buckets_ascending name buckets start made bounds
  have last : start.buckets.getLast? = some (.infinite false) := by
    rw [(new_shape name buckets start made).2.2, List.getLast?_concat]
  have counted (key : LabelValues) (counts : List Nat) (held : (start.recordAll observations).counts.lookup key = some counts) :
      counts = start.buckets.map (below (observed observations key)) := by
    rw [tallied.counts] at held
    split at held
    · cases held
    · exact (Option.some.inj held).symm
  have total (key : LabelValues) (counts : List Nat) (held : (start.recordAll observations).counts.lookup key = some counts) :
      counts.getLast? = some (observed observations key).length := by
    rw [counted key counts held, List.getLast?_map, last, Option.map_some,
      below_all _ (observed_real observations real key)]
  refine ⟨by rwa [tallied.buckets], by rwa [tallied.buckets], fun key => ?_, fun key counts held => ?_, fun key counts held => ?_,
    total, fun key counts held => ?_⟩
  · rw [Dict.mem_keys_iff]
    constructor
    · rintro ⟨counts, held⟩ none_yet
      rw [tallied.counts, if_pos none_yet] at held
      cases held
    · intro some_value
      exact ⟨_, by rw [tallied.counts, if_neg some_value]⟩
  · rw [counted key counts held, List.length_map, tallied.buckets]
  · rw [counted key counts held, List.pairwise_map]
    exact ascending.imp (fun upward => below_mono _ _ _ upward)
  · refine mem_samples repr _ key counts held _ ?_
    rw [Histogram.samplesOf, total key counts held]
    simp

omit made in
theorem digits_on_one_line (n : Nat) : '\n' ∉ (toString n).toList := by
  intro broken
  have digit := Nat.isDigit_of_mem_toDigits (b := 10) (by decide) (by decide) (by simpa [Nat.repr] using broken)
  revert digit
  decide

omit made in
theorem value_on_one_line (plain : ∀ value, '\n' ∉ (repr value).toList) (value : Extended) :
    '\n' ∉ (renderValue repr value).toList := by
  cases value with
  | finite value => exact plain value
  | nan => simp [renderValue]
  | infinite negative =>
      rw [renderValue]
      split
      · decide
      · decide

-- What the lines of one label set are made of.
structure Shape (histogram : Histogram) (key : LabelValues) (sample : Sample) : Prop where
  name : ∃ suffix, sample.name = histogram.name ++ suffix ∧ ∀ c ∈ suffix.toList, identifierPart true c = true
  labels : sample.labels = key
  extra : ∀ pair ∈ sample.extra.toList, pair.1 = "le"
  value : '\n' ∉ sample.value.toList

omit made in
theorem samples_shape (plain : ∀ value, '\n' ∉ (repr value).toList) (histogram : Histogram) (key : LabelValues)
    (counts : List Nat) (sample : Sample) (member : sample ∈ histogram.samplesOf repr (key, counts)) :
    Shape histogram key sample := by
  rw [Histogram.samplesOf, List.mem_append] at member
  rcases member with bucket | rest
  · obtain ⟨place, inside, rfl⟩ := List.mem_iff_getElem.mp bucket
    rw [List.getElem_zipWith]
    exact ⟨⟨"_bucket", rfl, List.all_eq_true.mp (by decide)⟩, rfl, by simp, digits_on_one_line _⟩
  · rcases List.mem_cons.mp rest with rfl | last
    · exact ⟨⟨"_sum", rfl, List.all_eq_true.mp (by decide)⟩, rfl, by simp, value_on_one_line repr plain _⟩
    · rw [List.mem_singleton.mp last]
      exact ⟨⟨"_count", rfl, List.all_eq_true.mp (by decide)⟩, rfl, by simp, digits_on_one_line _⟩

theorem sample_shape (plain : ∀ value, '\n' ∉ (repr value).toList) (sample : Sample)
    (member : sample ∈ (start.recordAll observations).samples repr) : ∃ observation ∈ observations,
      ∃ key, normalize observation.2 = .ok key ∧ Shape (start.recordAll observations) key sample := by
  obtain ⟨⟨key, counts⟩, entry, listed⟩ := List.mem_flatMap.mp member
  have held := Dict.lookup_of_mem _ _ _ (List.mem_mergeSort.mp entry)
  have some_value : observed observations key ≠ [] := by
    intro none_yet
    rw [(records_tallied start observations buckets name made).counts, if_pos none_yet] at held
    cases held
  obtain ⟨observation, inside, accepted⟩ := (observed_some observations key).mp some_value
  exact ⟨observation, inside, key, accepted, samples_shape repr plain _ key counts sample listed⟩

-- The line of the sum of an observation's labels shows all the names.
theorem exposed_names (plain : ∀ value, '\n' ∉ (repr value).toList) (exposed : Exposed repr (start.recordAll observations)) :
    NamesOnOneLine name observations := by
  intro observation member key accepted
  have tallied := records_tallied start observations buckets name made
  have same : (start.recordAll observations).name = name := tallied.name.trans (new_shape name buckets start made).2.1
  have some_value := (observed_some observations key).mpr ⟨observation, member, accepted⟩
  obtain ⟨counts, held⟩ : ∃ counts, (start.recordAll observations).counts.lookup key = some counts :=
    ⟨_, by rw [tallied.counts, if_neg some_value]⟩
  let sum : Sample := ⟨(start.recordAll observations).name ++ "_sum", key, none,
    renderValue repr (((start.recordAll observations).sums.lookup key).getD (.finite 0))⟩
  have listed : sum ∈ (start.recordAll observations).samplesOf repr (key, counts) := by simp [Histogram.samplesOf, sum]
  have line := mt (line_iff sum (value_on_one_line repr plain _)).mpr
    (exposed.oneLine sum (mem_samples repr _ key counts held sum listed))
  rw [not_or] at line
  refine ⟨fun ends => line.1 ?_, fun pair inside ends => line.2 ⟨pair, ?_, List.mem_of_getLast? ends⟩⟩
  · change '\n' ∈ ((start.recordAll observations).name ++ "_sum").toList
    rw [same, String.toList_append]
    exact List.mem_append_left _ (List.mem_of_getLast? ends)
  · exact List.mem_append_left _ inside

omit made in
theorem shape_on_one_line (histogram : Histogram) (labels : Option (Dict String String)) (key : LabelValues) (sample : Sample)
    (shape : Shape histogram key sample) (valid : validName histogram.name = true) (accepted : normalize labels = .ok key)
    (outer : ¬ EndsLine histogram.name) (inner : ∀ pair ∈ key, ¬ EndsLine pair.1) : '\n' ∉ sample.line.toList := by
  intro broken
  obtain ⟨suffix, called, ending⟩ := shape.name
  rcases (line_iff sample shape.value).mp broken with metric | ⟨pair, label, line⟩
  · rw [called, String.toList_append, List.mem_append] at metric
    rcases metric with own | added
    · exact outer ((matched_chars true histogram.name valid).2 own)
    · exact (part_plain true _ (ending _ added)).1 rfl
  · rcases List.mem_append.mp label with known | extra
    · rw [shape.labels] at known
      exact inner pair known ((matched_chars false pair.1 (normalized_names _ key accepted pair known)).2 line)
    · rw [shape.extra pair extra] at line
      revert line
      decide

omit made in
theorem shape_decoded (histogram : Histogram) (labels : Option (Dict String String)) (key : LabelValues) (sample : Sample)
    (shape : Shape histogram key sample) (valid : validName histogram.name = true) (accepted : normalize labels = .ok key) :
    decode sample.line = some (sample.name, sample.pairs, sample.value) := by
  obtain ⟨suffix, called, ending⟩ := shape.name
  refine labels_decoded sample.name sample.value sample.labels sample.extra ?_ (fun pair label => ?_)
  · rw [called]
    exact (matched_clear true histogram.name valid).append suffix ending
  · rcases List.mem_append.mp label with known | extra
    · rw [shape.labels] at known
      exact normalized_clear _ key accepted pair known
    · rw [shape.extra pair extra]
      exact ⟨by decide, by decide, by decide⟩

theorem exposed_iff (plain : ∀ value, '\n' ∉ (repr value).toList) :
    Exposed repr (start.recordAll observations) ↔ NamesOnOneLine name observations := by
  obtain ⟨valid, named, -⟩ := new_shape name buckets start made
  have same : (start.recordAll observations).name = name :=
    (records_tallied start observations buckets name made).name.trans named
  have shaped := sample_shape repr name buckets start made observations plain
  rw [← same] at valid
  refine ⟨exposed_names repr name buckets start made observations plain, fun names => ⟨fun sample member => ?_, fun sample member => ?_⟩⟩
  · obtain ⟨observation, inside, key, accepted, shape⟩ := shaped sample member
    obtain ⟨outer, inner⟩ := names observation inside key accepted
    exact shape_on_one_line _ observation.2 key sample shape valid accepted (same ▸ outer) inner
  · obtain ⟨observation, inside, key, accepted, shape⟩ := shaped sample member
    exact shape_decoded _ observation.2 key sample shape valid accepted

-- The exposition is unambiguous and the histogram consistent just where no name
-- ends in a line feed.
theorem exposition_iff (plain : ∀ value, '\n' ∉ (repr value).toList) (bounds : Extended.nan ∉ buckets)
    (real : ∀ observation ∈ observations, observation.1 ≠ .nan) :
    (LabelsApart ∧ Exposed repr (start.recordAll observations) ∧
      Consistent repr (start.recordAll observations) observations) ↔ NamesOnOneLine name observations := by
  have counts := consistent repr name buckets start made observations bounds real
  rw [exposed_iff repr name buckets start made observations plain |>.symm]
  exact ⟨fun all => all.2.1, fun exposed => ⟨labels_apart, exposed, counts⟩⟩

end

def labelled (name value : String) : Option (Dict String String) := some (Dict.empty.insert name value)

theorem labelled_normal (name value : String) (valid : validLabel name = true) :
    normalize (labelled name value) = .ok [(name, value)] := by
  have keys : (Dict.empty.insert name value : Dict String String).keys = [name] := rfl
  have entries : (Dict.empty.insert name value : Dict String String).entries = [(name, value)] := rfl
  rw [labelled, normalize, keys, entries, if_pos (by simp [valid]), List.mergeSort_singleton]

def halfSecond : Histogram := { name := "qe_latency_seconds", buckets := [.finite (1 / 2), .infinite false] }

theorem half_second_new : Histogram.new "qe_latency_seconds" [.finite (1 / 2)] = .ok halfSecond := by
  rw [Histogram.new, if_pos (by decide), List.mergeSort_singleton]
  rfl

-- Of the two numbers written here.
def written (value : ℚ) : String := if value = 1 / 2 then "0.5" else "0.25"

theorem written_plain (value : ℚ) : '\n' ∉ (written value).toList := by
  rw [written]
  split
  · decide
  · decide

theorem exposition_iff_quoted : LabelsApart ∧
    Exposed written (halfSecond.recordAll [(.finite (1 / 4), labelled "route" "a\"b\\n\n")]) ∧
    Consistent written (halfSecond.recordAll [(.finite (1 / 4), labelled "route" "a\"b\\n\n")])
      [(.finite (1 / 4), labelled "route" "a\"b\\n\n")] := by
  refine (exposition_iff written "qe_latency_seconds" [.finite (1 / 2)] halfSecond half_second_new _ written_plain
    (by simp) (by simp)).mpr ?_
  intro observation member key accepted
  rw [List.mem_singleton.mp member, labelled_normal _ _ (by decide)] at accepted
  rw [← Except.ok.inj accepted]
  refine ⟨by rw [EndsLine]; decide, fun pair inside => ?_⟩
  rw [List.mem_singleton.mp inside, EndsLine]
  decide

-- The name passes the check and breaks the line.
theorem broken_by_label_name : ¬ (LabelsApart ∧ Exposed written (halfSecond.recordAll [(.finite (1 / 4), labelled "a\n" "x")]) ∧
    Consistent written (halfSecond.recordAll [(.finite (1 / 4), labelled "a\n" "x")])
      [(.finite (1 / 4), labelled "a\n" "x")]) := by
  intro all
  have names := (exposed_iff written "qe_latency_seconds" [.finite (1 / 2)] halfSecond half_second_new _ written_plain).mp
    all.2.1
  have whole := (names _ (List.mem_singleton_self _) _ (labelled_normal "a\n" "x" (by decide))).2 ("a\n", "x")
    (List.mem_singleton_self _)
  rw [EndsLine] at whole
  revert whole
  decide

end QuantEngine.Metrics
