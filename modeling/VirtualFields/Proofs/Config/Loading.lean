import Mathlib.Data.List.Basic
import VirtualFields.Config.Load

/-!
# Admission of configurations

Loading a text turns the default configuration into another one entry by entry.  What entries make
of a field is said by `Config.Gives`, which looks at no key but the field's own; since a key is
given once, entries that are set one after the other make of every field what they say together
(`Config.foldlM_set?_eq_some_iff`).  So a text is admitted exactly if it holds a document, all
entries of the document fit, and all class names in the configuration that they describe are
qualified names (`Config.ofTextBy_outcome`).
-/

namespace VirtualFields

namespace Settings.Setting

theorem asFlag?_eq_some_iff {s : Setting} {b : Bool} :
  s.asFlag? = some b ↔ s = .flag b
  := by
  cases s with
  | flag => simp [asFlag?]
  | text | list | other => simp [asFlag?]

theorem flag_injective : Function.Injective flag := by
  intro b b'
  apply flag.inj

theorem asText?_eq_some_iff {s : Setting} {t : String} :
  s.asText? = some t ↔ s = .text t
  := by
  cases s with
  | text => simp [asText?]
  | flag | list | other => simp [asText?]

theorem mapM_asText?_eq_some_iff {ss : List Setting} {ts : List String} :
  ss.mapM asText? = some ts ↔ ss = ts.map .text
  := by
  induction ss generalizing ts with
  | nil => simp [eq_comm]
  | cons s ss ih =>
    simp only [List.mapM_cons, bind, pure, Option.bind_eq_some_iff, asText?_eq_some_iff, ih,
      Option.some.injEq]
    constructor
    · rintro ⟨t, rfl, ts, rfl, rfl⟩
      rfl
    · intro h
      obtain ⟨t, ts, rfl, rfl, rfl⟩ := List.map_eq_cons_iff.mp h.symm
      use t, rfl, ts, rfl

theorem asNames?_eq_some_iff {s : Setting} {ts : List String} :
  s.asNames? = some ts ↔ s = names ts
  := by
  cases s with
  | list ss => simp [asNames?, names, mapM_asText?_eq_some_iff]
  | flag | text | other => simp [asNames?, names]

@[simp]
theorem asNames?_names (ts : List String) :
  (names ts).asNames? = some ts
  := asNames?_eq_some_iff.mpr rfl

theorem names_injective : Function.Injective names := by
  intro ss ts h
  apply Option.some.inj
  rw [← asNames?_names ss, h, asNames?_names]

end Settings.Setting

namespace Config

open Settings

variable {e : String × Setting} {es : Entries} {c c' c'' : Config}

/-! ### Fields and their keys -/

/-- An entry fits if its key is known and its value is of the kind that the key takes. -/
def Fits (e : String × Setting) : Prop :=
  (e.1 = "trust_field_initializers" ∧ ∃ b, e.2 = .flag b)
    ∨ (e.1 = "untrusted_classes" ∨ e.1 = "implicit_write_annotations") ∧ ∃ ss, e.2 = .names ss

theorem mem_of_lookup {key : String} {s : Setting} (h : es.lookup key = some s) :
  (key, s) ∈ es
  := by
  obtain ⟨before, after, rfl, -⟩ := List.lookup_eq_some_iff.mp h
  apply List.mem_append_cons_self

section Gives

variable {α : Type} {key k : String} {s : Setting} {value : α → Setting} {x y z : α}

/-- What entries make of a field: the field holds the value that is given for its key, and if none
is given, what it held before. -/
def Gives (es : Entries) (key : String) (value : α → Setting) (x y : α) : Prop :=
  es.lookup key = some (value y) ∨ es.lookup key = none ∧ y = x

theorem gives_nil :
  Gives [] key value x y ↔ y = x
  := by
  simp [Gives]

theorem gives_self (hvalue : Function.Injective value) :
  Gives [(key, value z)] key value x y ↔ y = z
  := by
  simp [Gives, hvalue.eq_iff, eq_comm]

theorem gives_of_ne (hne : key ≠ k) :
  Gives [(k, s)] key value x y ↔ y = x
  := by
  simp [Gives, List.lookup_cons, beq_false_of_ne hne]

/-- Entries make of a field what the first and the others make of it one after the other, if the
others do not have its key again. -/
theorem gives_cons_iff (hkey : k ∉ es.map (·.1)) :
  Gives ((k, s) :: es) key value x z
    ↔ ∃ y, Gives [(k, s)] key value x y ∧ Gives es key value y z
  := by
  by_cases hne : key = k
  · subst hne
    have hnone : es.lookup key = none := by
      rw [List.lookup_eq_none_iff]
      intro e he
      simpa using fun heq : key = e.1 => hkey (heq ▸ List.mem_map_of_mem he)
    simp [Gives, hnone]
  · have hskip : ((k, s) :: es).lookup key = es.lookup key := by
      rw [List.lookup_cons, beq_false_of_ne hne]
    simp only [gives_of_ne hne, exists_eq_left]
    rw [Gives, Gives, hskip]

/-- Entries make something of a field if all values for its key are of the right kind. -/
theorem exists_gives (hvalue : ∀ s, (key, s) ∈ es → ∃ y, s = value y) (x : α) :
  ∃ y, Gives es key value x y
  := by
  cases hs : es.lookup key with
  | none => use x, .inr ⟨hs, rfl⟩
  | some s =>
    obtain ⟨y, rfl⟩ := hvalue s (mem_of_lookup hs)
    use y, .inl hs

end Gives

/-! ### Entries and configurations -/

/-- Entries that fit turn one configuration into another. -/
structure Turns (es : Entries) (c c' : Config) : Prop where
  fits : ∀ e ∈ es, Fits e
  trust : Gives es "trust_field_initializers" .flag c.trustInitializers c'.trustInitializers
  classes : Gives es "untrusted_classes" .names c.untrustedClasses c'.untrustedClasses
  annotations :
    Gives es "implicit_write_annotations" .names c.writeAnnotations c'.writeAnnotations

theorem turns_nil_iff :
  Turns [] c c' ↔ c' = c
  := by
  constructor
  · rintro ⟨-, htrust, hclasses, hannotations⟩
    ext1
    · apply gives_nil.mp htrust
    · apply gives_nil.mp hclasses
    · apply gives_nil.mp hannotations
  · rintro rfl
    use List.forall_mem_nil _, gives_nil.mpr rfl, gives_nil.mpr rfl, gives_nil.mpr rfl

theorem turns_cons_iff (hkey : e.1 ∉ es.map (·.1)) :
  Turns (e :: es) c c'' ↔ ∃ c', Turns [e] c c' ∧ Turns es c' c''
  := by
  constructor
  · rintro ⟨hfits, htrust, hclasses, hannotations⟩
    obtain ⟨hfit, hfits⟩ := List.forall_mem_cons.mp hfits
    obtain ⟨b, htrust, htrust'⟩ := (gives_cons_iff hkey).mp htrust
    obtain ⟨classes, hclasses, hclasses'⟩ := (gives_cons_iff hkey).mp hclasses
    obtain ⟨annotations, hannotations, hannotations'⟩ := (gives_cons_iff hkey).mp hannotations
    use ⟨b, classes, annotations⟩
    use ⟨List.forall_mem_singleton.mpr hfit, htrust, hclasses, hannotations⟩
    use hfits, htrust', hclasses', hannotations'
  · rintro ⟨c', h, h'⟩
    use List.forall_mem_cons.mpr ⟨List.forall_mem_singleton.mp h.fits, h'.fits⟩
    · apply (gives_cons_iff hkey).mpr ⟨_, h.trust, h'.trust⟩
    · apply (gives_cons_iff hkey).mpr ⟨_, h.classes, h'.classes⟩
    · apply (gives_cons_iff hkey).mpr ⟨_, h.annotations, h'.annotations⟩

/-- Setting an entry is what the entry says. -/
theorem set?_eq_some_iff :
  c.set? e = some c' ↔ Turns [e] c c'
  := by
  constructor
  · intro h
    unfold set? at h
    split at h
    · obtain ⟨b, hb, rfl⟩ := Option.map_eq_some_iff.mp h
      obtain rfl := Setting.asFlag?_eq_some_iff.mp hb
      use List.forall_mem_singleton.mpr (.inl ⟨rfl, b, rfl⟩)
      · apply (gives_self Setting.flag_injective).mpr rfl
      · apply (gives_of_ne (by decide)).mpr rfl
      · apply (gives_of_ne (by decide)).mpr rfl
    · obtain ⟨ss, hss, rfl⟩ := Option.map_eq_some_iff.mp h
      obtain rfl := Setting.asNames?_eq_some_iff.mp hss
      use List.forall_mem_singleton.mpr (.inr ⟨.inl rfl, ss, rfl⟩)
      · apply (gives_of_ne (by decide)).mpr rfl
      · apply (gives_self Setting.names_injective).mpr rfl
      · apply (gives_of_ne (by decide)).mpr rfl
    · obtain ⟨ss, hss, rfl⟩ := Option.map_eq_some_iff.mp h
      obtain rfl := Setting.asNames?_eq_some_iff.mp hss
      use List.forall_mem_singleton.mpr (.inr ⟨.inr rfl, ss, rfl⟩)
      · apply (gives_of_ne (by decide)).mpr rfl
      · apply (gives_of_ne (by decide)).mpr rfl
      · apply (gives_self Setting.names_injective).mpr rfl
    · contradiction
  · rintro ⟨hfits, htrust, hclasses, hannotations⟩
    obtain ⟨key, s⟩ := e
    obtain ⟨rfl, b, rfl⟩ | ⟨rfl | rfl, ss, rfl⟩ := List.forall_mem_singleton.mp hfits
    · rw [gives_self Setting.flag_injective] at htrust
      rw [gives_of_ne (by decide)] at hclasses hannotations
      simp [set?, Setting.asFlag?, Config.ext_iff, htrust, hclasses, hannotations]
    · rw [gives_self Setting.names_injective] at hclasses
      rw [gives_of_ne (by decide)] at htrust hannotations
      simp [set?, Config.ext_iff, htrust, hclasses, hannotations]
    · rw [gives_self Setting.names_injective] at hannotations
      rw [gives_of_ne (by decide)] at htrust hclasses
      simp [set?, Config.ext_iff, htrust, hclasses, hannotations]

/-- Setting the entries of a document one after the other is what they say together. -/
theorem foldlM_set?_eq_some_iff (hes : (es.map (·.1)).Nodup) :
  es.foldlM set? c = some c' ↔ Turns es c c'
  := by
  induction es generalizing c with
  | nil => simp [turns_nil_iff, eq_comm]
  | cons e es ih =>
    obtain ⟨hkey, hes⟩ := List.nodup_cons.mp hes
    simp only [List.foldlM_cons, bind, Option.bind_eq_some_iff, set?_eq_some_iff, ih hes,
      turns_cons_iff hkey]

/-- Entries that fit turn every configuration into another. -/
theorem exists_turns_iff :
  (∃ c', Turns es c c') ↔ ∀ e ∈ es, Fits e
  := by
  constructor
  · rintro ⟨c', h⟩
    apply h.fits
  · intro hfits
    have hflag : ∀ s, ("trust_field_initializers", s) ∈ es → ∃ b, s = .flag b := by
      intro s hs
      simpa [Fits] using hfits _ hs
    have hclasses : ∀ s, ("untrusted_classes", s) ∈ es → ∃ ss, s = .names ss := by
      intro s hs
      simpa [Fits] using hfits _ hs
    have hannotations : ∀ s, ("implicit_write_annotations", s) ∈ es → ∃ ss, s = .names ss := by
      intro s hs
      simpa [Fits] using hfits _ hs
    obtain ⟨b, hb⟩ := exists_gives hflag c.trustInitializers
    obtain ⟨classes, hclasses⟩ := exists_gives hclasses c.untrustedClasses
    obtain ⟨annotations, hannotations⟩ := exists_gives hannotations c.writeAnnotations
    use ⟨b, classes, annotations⟩, hfits

theorem ofDocument?_eq_some_iff {d : Document} :
  ofDocument? d = some c ↔ Turns d.entries {} c
  := foldlM_set?_eq_some_iff d.nodup

theorem ofDocument?_eq_none_iff {d : Document} :
  ofDocument? d = none ↔ ∃ e ∈ d.entries, ¬ Fits e
  := by
  rw [Option.eq_none_iff_forall_ne_some]
  simp only [ne_eq, ofDocument?_eq_some_iff, ← not_exists, exists_turns_iff, not_forall,
    exists_prop]

/-! ### Class names -/

/-- A name is the first in a list that is no qualified name. -/
def IsFirstInvalid (name : String) (names : List String) : Prop :=
  ∃ valid rest, names = valid ++ name :: rest ∧ (∀ n ∈ valid, Text.isQualifiedName n)
    ∧ ¬ Text.isQualifiedName name

theorem invalidName?_eq_some_iff {name : String} :
  c.invalidName? = some name ↔ IsFirstInvalid name (c.untrustedClasses ++ c.writeAnnotations)
  := by
  simp only [invalidName?, List.find?_eq_some_iff_append, IsFirstInvalid, Bool.not_not,
    Bool.not_eq_true', Bool.not_eq_true]
  constructor
  · rintro ⟨hname, valid, rest, hlist, hvalid⟩
    use valid, rest
  · rintro ⟨valid, rest, hlist, hvalid, hname⟩
    use hname, valid, rest

theorem invalidName?_eq_none_iff :
  c.invalidName? = none ↔ ∀ n ∈ c.untrustedClasses ++ c.writeAnnotations, Text.isQualifiedName n
  := by
  simp only [invalidName?, List.find?_eq_none, Bool.not_eq_true', Bool.not_eq_false]

/-- The default configuration is valid. -/
theorem invalidName?_default :
  ({} : Config).invalidName? = none
  := by
  decide +kernel

/-- An invalid name stands in one of the entries, for no default is invalid. -/
theorem exists_entry_of_isFirstInvalid {name : String} (h : Turns es {} c)
    (hname : IsFirstInvalid name (c.untrustedClasses ++ c.writeAnnotations)) :
  ∃ key ss, (key, .names ss) ∈ es ∧ name ∈ ss
  := by
  obtain ⟨valid, rest, hlist, -, hinvalid⟩ := hname
  have hmem : name ∈ c.untrustedClasses ++ c.writeAnnotations := by
    rw [hlist]
    apply List.mem_append_cons_self
  have hdefault : name ∉ ({} : Config).untrustedClasses ++ ({} : Config).writeAnnotations :=
    fun hmem => hinvalid (invalidName?_eq_none_iff.mp invalidName?_default name hmem)
  rcases List.mem_append.mp hmem with hmem | hmem
  · rcases h.classes with hgiven | ⟨-, hsame⟩
    · use "untrusted_classes", c.untrustedClasses, mem_of_lookup hgiven
    · rw [hsame] at hmem
      exact absurd (List.mem_append_left _ hmem) hdefault
  · rcases h.annotations with hgiven | ⟨-, hsame⟩
    · use "implicit_write_annotations", c.writeAnnotations, mem_of_lookup hgiven
    · rw [hsame] at hmem
      exact absurd (List.mem_append_right _ hmem) hdefault

/-! ### Loading -/

variable {read : Reader} {text origin : String}

/-- A text describes a configuration if it holds a document whose entries turn the default
configuration into it. -/
theorem bind_ofDocument?_eq_some_iff :
  (read text).bind ofDocument? = some c ↔ ∃ d, read text = some d ∧ Turns d.entries {} c
  := by
  simp only [Option.bind_eq_some_iff, ofDocument?_eq_some_iff]

/-- A text describes no configuration if it holds no document or one with an entry that does not
fit. -/
theorem bind_ofDocument?_eq_none_iff :
  (read text).bind ofDocument? = none
    ↔ read text = none ∨ ∃ d, read text = some d ∧ ∃ e ∈ d.entries, ¬ Fits e
  := by
  cases hread : read text with
  | none => simp
  | some d => simp [ofDocument?_eq_none_iff]

theorem ofTextBy_eq_ok_iff :
  (ofTextBy read text origin).result = .ok c
    ↔ (read text).bind ofDocument? = some c ∧ c.invalidName? = none
  := by
  cases hc : (read text).bind ofDocument? with
  | none => simp [ofTextBy, hc]
  | some c' =>
    rw [Option.some.injEq]
    cases hname : c'.invalidName? with
    | none =>
      simp only [ofTextBy, hc, hname, Except.ok.injEq]
      constructor
      · rintro rfl
        use rfl
      · apply And.left
    | some name =>
      simp only [ofTextBy, hc, hname, reduceCtorEq, false_iff]
      rintro ⟨rfl, hnone⟩
      rw [hname] at hnone
      contradiction

theorem ofTextBy_eq_error_iff {e : Error} :
  (ofTextBy read text origin).result = .error e
    ↔ (read text).bind ofDocument? = none ∧ e = .malformed origin
      ∨ ∃ c name, (read text).bind ofDocument? = some c ∧ c.invalidName? = some name
        ∧ e = .invalidClassName name
  := by
  cases hc : (read text).bind ofDocument? with
  | none => simp [ofTextBy, hc, eq_comm]
  | some c =>
    cases hname : c.invalidName? with
    | none => simp [ofTextBy, hc, hname]
    | some name => simp [ofTextBy, hc, hname, eq_comm]

theorem ofTextBy_messages :
  (ofTextBy read text origin).messages =
    match (ofTextBy read text origin).result with
    | .ok c => [⟨origin, c.untrustedClasses.length, c.writeAnnotations.length⟩]
    | .error _ => []
  := by
  cases hc : (read text).bind ofDocument? with
  | none => simp [ofTextBy, hc]
  | some c =>
    cases hname : c.invalidName? with
    | none => simp [ofTextBy, hc, hname]
    | some name => simp [ofTextBy, hc, hname]

/-- A class name in an error stands in the text. -/
theorem exists_entry_of_invalidClassName {name : String}
    (h : (ofTextBy read text origin).result = .error (.invalidClassName name)) :
  ∃ d, read text = some d ∧ ∃ key ss, (key, .names ss) ∈ d.entries ∧ name ∈ ss
  := by
  obtain ⟨-, hmalformed⟩ | ⟨c, name, hdescribes, hname, h⟩ := ofTextBy_eq_error_iff.mp h
  · contradiction
  · cases h
    obtain ⟨d, hread, hturns⟩ := bind_ofDocument?_eq_some_iff.mp hdescribes
    use d, hread
    apply exists_entry_of_isFirstInvalid hturns (invalidName?_eq_some_iff.mp hname)

/-- Take any reader of documents.  A text is loaded exactly if it holds a document, all entries of
the document fit, and all class names in the configuration that they make of the default one, be
they given or defaults, are qualified names.  Then one message is sent, with the lengths of both
lists, and otherwise none.  The error is that the text of this origin is malformed if it holds no
document or one with an entry that does not fit, and else the first name that is no qualified
name, where the untrusted classes come before the annotations. -/
theorem ofTextBy_outcome (read : Reader) (text origin : String) :
  (∀ c, (ofTextBy read text origin).result = .ok c ↔
      ∃ d, read text = some d ∧ Turns d.entries {} c
        ∧ ∀ n ∈ c.untrustedClasses ++ c.writeAnnotations, Text.isQualifiedName n)
    ∧ (∀ e, (ofTextBy read text origin).result = .error e ↔
        (read text = none ∨ ∃ d, read text = some d ∧ ∃ entry ∈ d.entries, ¬ Fits entry)
            ∧ e = .malformed origin
          ∨ ∃ d c name, read text = some d ∧ Turns d.entries {} c
            ∧ IsFirstInvalid name (c.untrustedClasses ++ c.writeAnnotations)
            ∧ e = .invalidClassName name)
    ∧ (ofTextBy read text origin).messages =
        match (ofTextBy read text origin).result with
        | .ok c => [⟨origin, c.untrustedClasses.length, c.writeAnnotations.length⟩]
        | .error _ => []
  := by
  and_intros
  · intro c
    rw [ofTextBy_eq_ok_iff, bind_ofDocument?_eq_some_iff, invalidName?_eq_none_iff]
    constructor
    · rintro ⟨⟨d, hread, hturns⟩, hnames⟩
      use d, hread, hturns
    · rintro ⟨d, hread, hturns, hnames⟩
      use ⟨d, hread, hturns⟩
  · intro e
    rw [ofTextBy_eq_error_iff, bind_ofDocument?_eq_none_iff]
    apply or_congr_right
    constructor
    · rintro ⟨c, name, hdescribes, hname, he⟩
      obtain ⟨d, hread, hturns⟩ := bind_ofDocument?_eq_some_iff.mp hdescribes
      use d, c, name, hread, hturns, invalidName?_eq_some_iff.mp hname
    · rintro ⟨d, c, name, hread, hturns, hname, he⟩
      use c, name, bind_ofDocument?_eq_some_iff.mpr ⟨d, hread, hturns⟩
      use invalidName?_eq_some_iff.mpr hname
  · apply ofTextBy_messages

/-- Settings with two names that are no qualified names and without annotations. -/
def brokenSettings : String :=
  "untrusted_classes = ['com.Settings', \"com..Broken\", '']"

/-- Settings with one untrusted class and nothing else. -/
def sparseSettings : String :=
  "untrusted_classes = ['com.Settings']"

/-- The first of two broken names is reported, although annotations come by default, and nothing
is sent.  Settings with one untrusted class are loaded with the other values of the default
configuration, and the message counts the default annotations. -/
theorem ofTextBy_outcome_broken :
  (ofText brokenSettings "dfa.toml").result = .error (.invalidClassName "com..Broken")
    ∧ (ofText brokenSettings "dfa.toml").messages = []
    ∧ (ofText sparseSettings "dfa.toml").result
      = .ok { trustInitializers := true, untrustedClasses := ["com.Settings"],
              writeAnnotations := defaultWriteAnnotations }
    ∧ (ofText sparseSettings "dfa.toml").messages = [⟨"dfa.toml", 1, 4⟩]
  := by
  have hbroken : (Document.parse? brokenSettings).bind ofDocument? = some
      { untrustedClasses := ["com.Settings", "com..Broken", ""] } := by
    decide +kernel
  obtain ⟨d, hread, hturns⟩ := bind_ofDocument?_eq_some_iff.mp hbroken
  have hname : IsFirstInvalid "com..Broken"
      (["com.Settings", "com..Broken", ""] ++ defaultWriteAnnotations) := by
    use ["com.Settings"], "" :: defaultWriteAnnotations, rfl
    decide +kernel
  obtain ⟨-, herror, hsilent⟩ := ofTextBy_outcome Document.parse? brokenSettings "dfa.toml"
  have hfirst := (herror _).mpr (.inr ⟨d, _, _, hread, hturns, hname, rfl⟩)
  have hsparse : (Document.parse? sparseSettings).bind ofDocument? = some
      { untrustedClasses := ["com.Settings"] } := by
    decide +kernel
  obtain ⟨d', hread', hturns'⟩ := bind_ofDocument?_eq_some_iff.mp hsparse
  have hnames : ∀ n ∈ ["com.Settings"] ++ defaultWriteAnnotations, Text.isQualifiedName n := by
    decide +kernel
  obtain ⟨hok, -, hsent⟩ := ofTextBy_outcome Document.parse? sparseSettings "dfa.toml"
  have hloaded := (hok _).mpr ⟨d', hread', hturns', hnames⟩
  rw [ofText, ofText]
  use hfirst, hsilent.trans (by rw [hfirst]), hloaded
  rw [hsent, hloaded]
  rfl

end Config

end VirtualFields
