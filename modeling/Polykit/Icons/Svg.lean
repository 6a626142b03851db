/- Module: Polykit/Icons/Svg
   generality: I
   source: crates/polysym-build/src/lib.rs
   digest: What becomes of a symbol's SVG: its black paint, its size and its view box. -/

import Polykit.Lib.Search
import Polykit.Log.Clean

set_option autoImplicit false
set_option relaxedAutoImplicit false

namespace Polykit.Icons.Svg

open Lib.Search Lib.Text
open Log.Clean (Str)

/-! Black paint. -/

def blacks : List (Str × Str) :=
  [("fill=\"#000000\"".toList, "fill=\"currentColor\"".toList),
    ("fill=\"#000\"".toList, "fill=\"currentColor\"".toList),
    ("fill='#000000'".toList, "fill='currentColor'".toList),
    ("fill='#000'".toList, "fill='currentColor'".toList),
    ("stroke=\"#000000\"".toList, "stroke=\"currentColor\"".toList),
    ("stroke=\"#000\"".toList, "stroke=\"currentColor\"".toList),
    ("stroke='#000000'".toList, "stroke='currentColor'".toList),
    ("stroke='#000'".toList, "stroke='currentColor'".toList)]

def recolor (svg : Str) : Str := replaceEach blacks svg

theorem blacks_filled : ∀ black ∈ blacks, black.1 ≠ [] := by decide

theorem blacks_clear : ∀ black ∈ blacks, ∀ other ∈ blacks, Clear black.1 other.2 := by
  decide +kernel

/-- No black paint is left, and a text without any is left alone. -/
theorem recolor_settles (svg : Str) :
    (∀ black ∈ blacks, ¬ black.1 <:+: recolor svg) ∧ recolor (recolor svg) = recolor svg ∧
      ((∀ black ∈ blacks, ¬ black.1 <:+: svg) ↔ recolor svg = svg) := by
  have free := replaceEach_free svg blacks_filled blacks_clear
  exact ⟨free, replaceEach_idle free, replaceEach_idle, fun same => same ▸ free⟩

/-! The opening tag. -/

def viewBoxMarker : Str := " viewBox=\"".toList

/-- The attributes that the loop looks for, up to the quote that opens their value. -/
def markers : List Str := [" width=\"".toList, " height=\"".toList, viewBoxMarker]

def valueOf (after : Str) : Str := after.takeWhile (fun c => c != '"')

/-- What is left to read. Without a closing quote only the marker itself is dropped. -/
def afterValue (after : Str) : Str := ((splitOnceChars ['"'] after).map Prod.snd).getD after

def replacement (viewbox : Option Str) (found : Hit) : Str :=
  if found.pattern = viewBoxMarker then
    viewBoxMarker ++ viewbox.getD (valueOf found.after) ++ ['"']
  else []

/-- The loop over the tag. Fuel counts its turns. -/
def stripAttributes (viewbox : Option Str) : Nat → Str → Str
  | 0, remaining => remaining
  | fuel + 1, remaining =>
      match earliest markers remaining with
      | none => remaining
      | some found => found.before ++ replacement viewbox found ++
          stripAttributes viewbox fuel (afterValue found.after)

def find (s pattern : Str) : Option Nat :=
  (splitOnceChars pattern s).map (fun parts => parts.1.length)

/-- `rewrite_svg_tag`. The view box is the text made of the symbol's metrics, if there are any. -/
def rewriteSvgTag (svg : Str) (viewbox : Option Str) : Str :=
  let svgTagStart := (find svg "<svg".toList).getD 0
  let tagEnd := ((find (svg.drop svgTagStart) ['>']).map (svgTagStart + ·)).getD svg.length
  stripAttributes viewbox tagEnd (svg.take tagEnd) ++ svg.drop tagEnd

def applySvgPostprocess (svg : Str) (viewbox : Option Str) : Str :=
  rewriteSvgTag (recolor svg) viewbox

/-! Documents. -/

def attributeNames : List Str := ["width".toList, "height".toList, "viewBox".toList]

def marker (name : Str) : Str := (' ' :: name ++ ['=']) ++ ['"']

/-- Text without a quote that does not end in a marker once a quote closes it. -/
structure Quiet (text : Str) : Prop where
  quote : '"' ∉ text
  ends : ∀ m ∈ markers, ¬ m.dropLast <:+ text

structure Quotable (value : Str) : Prop extends Quiet value where
  close : '>' ∉ value

structure Attribute where
  name : Str
  value : Str
  blank : ' ' ∉ name
  quote : '"' ∉ name
  close : '>' ∉ name
  quotable : Quotable value

def Attribute.text (a : Attribute) : Str := marker a.name ++ a.value ++ ['"']

/-- White space of its own in front of an attribute's blank, or an attribute. -/
inductive Piece
  | space (c : Char) (white : isWhitespace c = true)
  | named (a : Attribute)

def Piece.text : Piece → Str
  | .space c _ => [c]
  | .named a => a.text

/-- An SVG with what stands in front of its root tag, the tag's attributes and what stands between
them, what closes the tag, and all the rest. -/
structure Document where
  lead : Str
  pieces : List Piece
  close : Str
  body : Str
  leadPlain : ∀ m ∈ markers, ¬ m <:+: lead
  noTag : ¬ "<svg".toList <:+: lead
  closePlain : ∀ m ∈ markers, ¬ m <:+: close
  closeApart : ∀ m ∈ markers, ¬ m.tail <+: close
  closed : '>' ∉ close

def Document.tag (d : Document) : Str :=
  "<svg".toList ++ (d.pieces.flatMap Piece.text ++ d.close)

def Document.text (d : Document) : Str := d.lead ++ (d.tag ++ '>' :: d.body)

abbrev ViewBox := { value : Str // Quotable value }

def Attribute.withValue (a : Attribute) (value : ViewBox) : Attribute :=
  { a with value := value.1, quotable := value.2 }

def Attribute.normalized (viewbox : Option ViewBox) (a : Attribute) : Option Attribute :=
  if a.name = "viewBox".toList then some (viewbox.elim a a.withValue)
  else if a.name = "width".toList ∨ a.name = "height".toList then none
  else some a

def Piece.normalized (viewbox : Option ViewBox) : Piece → Option Piece
  | .space c white => some (.space c white)
  | .named a => (a.normalized viewbox).map .named

def Document.normalized (d : Document) (viewbox : Option ViewBox) : Document :=
  { d with pieces := d.pieces.filterMap (Piece.normalized viewbox) }

/-! The markers. -/

theorem markers_eq : markers = attributeNames.map marker := rfl

theorem mem_markers {m : Str} : m ∈ markers ↔ ∃ name ∈ attributeNames, marker name = m := by
  rw [markers_eq, List.mem_map]

theorem mem_attributeNames {name : Str} : name ∈ attributeNames ↔
    (name = "width".toList ∨ name = "height".toList) ∨ name = "viewBox".toList := by
  simp only [attributeNames, List.mem_cons, List.not_mem_nil, or_false, or_assoc]

theorem quote_notMem_name : ∀ name ∈ attributeNames, '"' ∉ name := by decide

theorem marker_filled : ∀ m ∈ markers, m ≠ [] := by decide

theorem blank_begins : ∀ m ∈ markers, ∃ rest, m = ' ' :: rest := by
  intro m among
  obtain ⟨name, -, rfl⟩ := mem_markers.mp among
  exact ⟨_, rfl⟩

theorem dropLast_marker (name : Str) : (marker name).dropLast = ' ' :: name ++ ['='] :=
  List.dropLast_concat

theorem marker_inj {name other : Str} (same : marker name = marker other) : name = other := by
  simpa [marker] using same

theorem quote_body {name : Str} (quote : '"' ∉ name) : '"' ∉ ' ' :: name ++ ['='] := by
  simp [quote]

theorem Quiet.apart {text s back m : Str} (quiet : Quiet text) (part : back <:+ text ++ ['"'])
    (filled : back ≠ []) (among : m ∈ markers) : ¬ m <+: back ++ s := by
  rintro ⟨rest, same⟩
  rcases List.suffix_concat_iff.mp part with empty | ⟨inner, rfl, inText⟩
  · exact filled empty
  · have inside : '"' ∉ inner := fun member => quiet.quote (inText.subset member)
    obtain ⟨name, listed, rfl⟩ := mem_markers.mp among
    have cut : (' ' :: name ++ ['=']) ++ '"' :: rest = inner ++ '"' :: s := by
      simpa [marker] using same
    have ends : ' ' :: name ++ ['='] = inner :=
      ((append_cons_inj (quote_body (quote_notMem_name name listed)) inside).mp cut).1
    refine quiet.ends _ among ?_
    rw [dropLast_marker, ends]
    exact inText

theorem quiet_name {name : Str} (blank : ' ' ∉ name) (quote : '"' ∉ name)
    (other : name ∉ attributeNames) : Quiet (' ' :: name ++ ['=']) where
  quote := quote_body quote
  ends := by
    intro m among ends
    obtain ⟨listedName, listed, rfl⟩ := mem_markers.mp among
    rw [dropLast_marker, List.suffix_concat_iff] at ends
    rcases ends with empty | ⟨front, same, part⟩
    · exact absurd empty (by simp)
    · obtain ⟨rfl, -⟩ := List.append_inj' same rfl
      rcases List.suffix_cons_iff.mp part with equal | inside
      · exact other ((List.cons.inj equal).2 ▸ listed)
      · exact blank (inside.subset List.mem_cons_self)

/-! The loop. -/

section Loop

variable (viewbox : Option Str)

theorem stripAttributes_none {s : Str} (none : earliest markers s = none) (fuel : Nat) :
    stripAttributes viewbox fuel s = s := by
  cases fuel with
  | zero => rfl
  | succ fuel => rw [stripAttributes, none]

theorem stripAttributes_some {s : Str} {found : Hit} (some : earliest markers s = some found)
    (fuel : Nat) : stripAttributes viewbox (fuel + 1) s =
      found.before ++ replacement viewbox found ++
        stripAttributes viewbox fuel (afterValue found.after) := by
  rw [stripAttributes, some]

theorem length_afterValue (after : Str) : (afterValue after).length ≤ after.length := by
  rw [afterValue]
  cases cut : splitOnceChars ['"'] after with
  | none => exact Nat.le_refl _
  | some parts =>
    rw [← splitOnceChars_parts cut, List.length_append]
    exact Nat.le_add_left _ _

theorem stripAttributes_enough {n k : Nat} {s : Str} (enough : s.length ≤ n)
    (also : s.length ≤ k) : stripAttributes viewbox n s = stripAttributes viewbox k s := by
  induction n generalizing k s with
  | zero =>
    have empty : s = [] := List.length_eq_zero_iff.mp (Nat.le_zero.mp enough)
    subst empty
    rw [stripAttributes_none viewbox (earliest_nil marker_filled),
      stripAttributes_none viewbox (earliest_nil marker_filled)]
  | succ n ih =>
    cases found : earliest markers s with
    | none => rw [stripAttributes_none viewbox found, stripAttributes_none viewbox found]
    | some hit =>
      obtain ⟨among, parts⟩ := earliest_parts found
      have filled := List.length_pos_iff.mpr (marker_filled _ among)
      have shorter : (afterValue hit.after).length < s.length := by
        have bound := length_afterValue hit.after
        rw [← parts, List.length_append, List.length_append]
        omega
      obtain ⟨k, rfl⟩ : ∃ k', k = k' + 1 := Nat.exists_eq_succ_of_ne_zero (by omega)
      rw [stripAttributes_some viewbox found, stripAttributes_some viewbox found,
        ih (by omega) (k := k) (by omega)]

def strip (s : Str) : Str := stripAttributes viewbox s.length s

theorem stripAttributes_eq {n : Nat} {s : Str} (enough : s.length ≤ n) :
    stripAttributes viewbox n s = strip viewbox s :=
  stripAttributes_enough viewbox enough (Nat.le_refl _)

theorem strip_front {front s : Str}
    (apart : ∀ back, back <:+ front → back ≠ [] → ∀ m ∈ markers, ¬ m <+: back ++ s) :
    strip viewbox (front ++ s) = front ++ strip viewbox s := by
  have found := earliest_append apart
  have longer : s.length ≤ (front ++ s).length := by simp
  rw [← stripAttributes_eq viewbox longer, strip]
  generalize (front ++ s).length = fuel
  cases fuel with
  | zero => rfl
  | succ fuel =>
    cases here : earliest markers s with
    | none =>
      rw [here] at found
      rw [stripAttributes_none viewbox found, stripAttributes_none viewbox here]
    | some hit =>
      rw [here] at found
      rw [stripAttributes_some viewbox found, stripAttributes_some viewbox here,
        List.append_assoc, List.append_assoc, List.append_assoc]
      rfl

theorem strip_plain {s : Str} (plain : ∀ m ∈ markers, ¬ m <:+: s) : strip viewbox s = s := by
  have apart : ∀ back, back <:+ s → back ≠ [] → ∀ m ∈ markers, ¬ m <+: back ++ [] := by
    intro back part _ m among begins
    rw [List.append_nil] at begins
    exact plain m among (begins.isInfix.trans part.isInfix)
  have whole := strip_front viewbox apart
  rwa [List.append_nil, strip, strip, List.length_nil, stripAttributes, List.append_nil] at whole

theorem strip_quiet {text : Str} (quiet : Quiet text) (s : Str) :
    strip viewbox (text ++ ['"'] ++ s) = text ++ ['"'] ++ strip viewbox s :=
  strip_front viewbox fun _ part filled _ among => quiet.apart part filled among

theorem strip_marked {name value : Str} (listed : name ∈ attributeNames) (quote : '"' ∉ value)
    (s : Str) : strip viewbox (marker name ++ (value ++ '"' :: s)) =
      replacement viewbox ⟨marker name, [], value ++ '"' :: s⟩ ++ strip viewbox s := by
  have among : marker name ∈ markers := mem_markers.mpr ⟨name, listed, rfl⟩
  have found : earliest markers (marker name ++ (value ++ '"' :: s)) =
      some ⟨marker name, [], value ++ '"' :: s⟩ := by
    refine earliest_here among (marker_filled _ among) fun m member begins => ?_
    obtain ⟨other, otherListed, rfl⟩ := mem_markers.mp member
    obtain ⟨rest, same⟩ := begins
    have cut : (' ' :: other) ++ '=' :: '"' :: rest =
        (' ' :: name) ++ '=' :: '"' :: (value ++ '"' :: s) := by simpa [marker] using same
    have plain : ∀ name ∈ attributeNames, '=' ∉ ' ' :: name := by decide
    obtain ⟨equal, -⟩ := (append_cons_inj (plain other otherListed) (plain name listed)).mp cut
    rw [(List.cons.inj equal).2]
  have later : afterValue (value ++ '"' :: s) = s := by
    rw [afterValue, splitOnceChars_char quote]
    rfl
  have filled : (marker name ++ (value ++ '"' :: s)).length =
      (marker name ++ (value ++ s)).length + 1 := by
    simp only [List.length_append, List.length_cons]
    omega
  rw [strip, filled, stripAttributes_some viewbox found, later,
    stripAttributes_eq viewbox (by simp only [List.length_append]; omega)]
  rfl

theorem valueOf_quoted {value : Str} (quote : '"' ∉ value) (s : Str) :
    valueOf (value ++ '"' :: s) = value := by
  have plain : ∀ c ∈ value, (c != '"') = true := fun c member =>
    bne_iff_ne.mpr fun same => quote (same ▸ member)
  rw [valueOf, List.takeWhile_append_of_pos plain]
  simp

end Loop

theorem replacement_box (viewbox : Option Str) {value : Str} (quote : '"' ∉ value) (s : Str) :
    replacement viewbox ⟨marker "viewBox".toList, [], value ++ '"' :: s⟩ =
      marker "viewBox".toList ++ viewbox.getD value ++ ['"'] := by
  have box : marker "viewBox".toList = viewBoxMarker := rfl
  simp only [replacement, box, if_true, valueOf_quoted quote]

theorem replacement_size (viewbox : Option Str) {name : Str} (size : name ≠ "viewBox".toList)
    (before after : Str) : replacement viewbox ⟨marker name, before, after⟩ = [] :=
  if_neg fun same => size (marker_inj (same : marker name = marker "viewBox".toList))

/-! The document. -/

variable (viewbox : Option ViewBox)

theorem strip_attribute (a : Attribute) (s : Str) :
    strip (viewbox.map Subtype.val) (a.text ++ s) =
      ((a.normalized viewbox).map Attribute.text).getD [] ++
        strip (viewbox.map Subtype.val) s := by
  have quote := a.quotable.quote
  have text : a.text ++ s = marker a.name ++ (a.value ++ '"' :: s) := by simp [Attribute.text]
  by_cases box : a.name = "viewBox".toList
  · have listed : "viewBox".toList ∈ attributeNames := by decide
    rw [text, box, strip_marked _ listed quote, replacement_box _ quote, Attribute.normalized,
      if_pos box]
    cases viewbox with
    | none => simp [Attribute.text, box]
    | some value => simp [Attribute.text, Attribute.withValue, box]
  · rw [Attribute.normalized, if_neg box]
    by_cases size : a.name = "width".toList ∨ a.name = "height".toList
    · have listed : a.name ∈ attributeNames := mem_attributeNames.mpr (.inl size)
      rw [text, strip_marked _ listed quote, replacement_size _ box, if_pos size]
      rfl
    · have unlisted : a.name ∉ attributeNames := fun listed =>
        (mem_attributeNames.mp listed).elim size box
      have name := quiet_name a.blank a.quote unlisted
      have quotes : a.text ++ s =
          (' ' :: a.name ++ ['=']) ++ ['"'] ++ (a.value ++ ['"'] ++ s) := by
        simp [Attribute.text, marker]
      rw [if_neg size, quotes, strip_quiet _ name, strip_quiet _ a.quotable.toQuiet]
      simp [Attribute.text, marker]

theorem tail_apart {close : Str} (apart : ∀ m ∈ markers, ¬ m.tail <+: close)
    (pieces : List Piece) : ∀ m ∈ markers, ¬ m.tail <+: pieces.flatMap Piece.text ++ close := by
  have letter : ∀ m ∈ markers, ∃ c rest, m.tail = c :: rest ∧ isWhitespace c = false := by
    intro m among
    obtain ⟨name, listed, rfl⟩ := mem_markers.mp among
    have filled : ∀ name ∈ attributeNames, name ≠ [] := by decide
    have begins : ∀ name ∈ attributeNames, isWhitespace (name.headD ' ') = false := by decide
    obtain ⟨c, rest, rfl⟩ := List.exists_cons_of_ne_nil (filled name listed)
    have dark := begins (c :: rest) listed
    rw [List.headD_cons] at dark
    exact ⟨c, rest ++ ['='] ++ ['"'], rfl, dark⟩
  intro m among begins
  obtain ⟨c, rest, tail, dark⟩ := letter m among
  cases pieces with
  | nil => exact apart m among begins
  | cons p later =>
    rw [tail, List.flatMap_cons, List.append_assoc] at begins
    cases p with
    | space white isWhite =>
      obtain ⟨rfl, -⟩ := List.cons_prefix_cons.mp begins
      exact absurd isWhite (by rw [dark]; exact Bool.false_ne_true)
    | named a =>
      obtain ⟨rfl, -⟩ := List.cons_prefix_cons.mp
        (begins : c :: rest <+: ' ' :: (_ ++ (later.flatMap Piece.text ++ close)))
      exact absurd dark (by decide)

theorem strip_piece (p : Piece) {s : Str} (apart : ∀ m ∈ markers, ¬ m.tail <+: s) :
    strip (viewbox.map Subtype.val) (p.text ++ s) =
      ((p.normalized viewbox).map Piece.text).getD [] ++
        strip (viewbox.map Subtype.val) s := by
  cases p with
  | space c white =>
    have alone : ∀ back, back <:+ [c] → back ≠ [] → ∀ m ∈ markers, ¬ m <+: back ++ s := by
      intro back part filled m among begins
      rcases List.suffix_cons_iff.mp part with rfl | empty
      · obtain ⟨rest, rfl⟩ := blank_begins m among
        exact apart _ among (List.cons_prefix_cons.mp begins).2
      · exact filled (List.suffix_nil.mp empty)
    exact strip_front _ alone
  | named a =>
    rw [Piece.normalized, Option.map_map]
    exact strip_attribute viewbox a s

theorem strip_pieces {close : Str} (apart : ∀ m ∈ markers, ¬ m.tail <+: close)
    (pieces : List Piece) :
    strip (viewbox.map Subtype.val) (pieces.flatMap Piece.text ++ close) =
      (pieces.filterMap (Piece.normalized viewbox)).flatMap Piece.text ++
        strip (viewbox.map Subtype.val) close := by
  induction pieces with
  | nil => rfl
  | cons p rest ih =>
    rw [List.flatMap_cons, List.append_assoc, strip_piece viewbox p (tail_apart apart rest), ih]
    cases kept : p.normalized viewbox with
    | none =>
      rw [List.filterMap_cons_none kept]
      rfl
    | some q =>
      rw [List.filterMap_cons_some kept, List.flatMap_cons, List.append_assoc]
      rfl

namespace Document

variable (d : Document)

theorem close_notMem_tag : '>' ∉ d.tag := by
  have texts : ∀ p ∈ d.pieces, '>' ∉ p.text := by
    intro p _
    cases p with
    | space c white =>
      intro member
      cases List.mem_singleton.mp member
      exact absurd white (by decide)
    | named a => simp [Piece.text, Attribute.text, marker, a.close, a.quotable.close]
  have begins : '>' ∉ "<svg".toList := by decide
  simp only [tag, List.mem_append, List.mem_flatMap, not_or, not_exists, not_and]
  exact ⟨begins, texts, d.closed⟩

theorem find_tag : find d.text "<svg".toList = some d.lead.length := by
  have apart : ∀ back, back <:+ d.lead → back ≠ [] →
      ¬ "<svg".toList <+: back ++ (d.tag ++ '>' :: d.body) := by
    intro back part filled begins
    obtain ⟨c, back, rfl⟩ := List.exists_cons_of_ne_nil filled
    obtain ⟨same, begins⟩ := List.cons_prefix_cons.mp
      (begins : '<' :: "svg".toList <+: c :: (back ++ '<' :: _))
    have inside : "svg".toList <+: back := prefix_front (by decide) begins
    have whole : "<svg".toList <+: c :: back := List.cons_prefix_cons.mpr ⟨same, inside⟩
    exact d.noTag (whole.isInfix.trans part.isInfix)
  rw [find, text, splitOnceChars_append apart, tag, List.append_assoc,
    splitOnceChars_here (by decide)]
  simp

theorem rewriteSvgTag_text (viewbox : Option Str) :
    rewriteSvgTag d.text viewbox = strip viewbox (d.lead ++ d.tag) ++ '>' :: d.body := by
  have dropped : d.text.drop d.lead.length = d.tag ++ '>' :: d.body := List.drop_left
  have stop : find (d.tag ++ '>' :: d.body) ['>'] = some d.tag.length := by
    rw [find, splitOnceChars_char d.close_notMem_tag]
    rfl
  have cut : d.text = (d.lead ++ d.tag) ++ '>' :: d.body := (List.append_assoc _ _ _).symm
  simp only [rewriteSvgTag, d.find_tag, Option.getD_some, dropped, stop, Option.map_some]
  rw [← List.length_append, cut, List.take_left, List.drop_left, strip]

theorem strip_tag (viewbox : Option Str) : strip viewbox (d.lead ++ d.tag) =
    d.lead ++ ("<svg".toList ++
      strip viewbox (d.pieces.flatMap Piece.text ++ d.close)) := by
  have lead : ∀ back, back <:+ d.lead → back ≠ [] → ∀ m ∈ markers, ¬ m <+: back ++ d.tag := by
    intro back part _ m among begins
    have angle : ∀ m ∈ markers, '<' ∉ m := by decide
    have inside : m <+: back := prefix_front (angle m among) (begins : m <+: back ++ '<' :: _)
    exact d.leadPlain m among (inside.isInfix.trans part.isInfix)
  have word : ∀ back, back <:+ "<svg".toList → back ≠ [] → ∀ m ∈ markers,
      ¬ m <+: back ++ (d.pieces.flatMap Piece.text ++ d.close) := by
    intro back part filled m among begins
    obtain ⟨c, back, rfl⟩ := List.exists_cons_of_ne_nil filled
    obtain ⟨rest, rfl⟩ := blank_begins m among
    obtain ⟨same, -⟩ := List.cons_prefix_cons.mp begins
    have noBlank : ' ' ∉ "<svg".toList := by decide
    exact noBlank (same ▸ part.subset List.mem_cons_self)
  rw [strip_front viewbox lead, tag, strip_front viewbox word]

end Document

theorem normalized_again {a b : Attribute} (kept : a.normalized viewbox = some b) :
    b.normalized viewbox = some b := by
  rw [Attribute.normalized] at kept
  split at kept
  · rename_i box
    cases kept
    cases viewbox with
    | none => exact if_pos box
    | some value => exact if_pos (show (a.withValue value).name = _ from box)
  · rename_i other
    split at kept
    · cases kept
    · rename_i size
      cases kept
      rw [Attribute.normalized, if_neg other, if_neg size]

theorem normalized_cases {a b : Attribute} (kept : a.normalized viewbox = some b) :
    (b.name = "viewBox".toList ∧ ∀ value, viewbox = some value → b.value = value.1) ∨
      b.name ∉ attributeNames := by
  rw [Attribute.normalized] at kept
  split at kept
  · rename_i box
    cases kept
    refine .inl ?_
    cases viewbox with
    | none => exact ⟨box, fun _ given => by cases given⟩
    | some new => exact ⟨box, fun _ given => congrArg Subtype.val (Option.some.inj given)⟩
  · rename_i other
    split at kept
    · cases kept
    · rename_i size
      cases kept
      exact .inr fun listed => (mem_attributeNames.mp listed).elim size other

theorem Document.normalized_again (d : Document) :
    (d.normalized viewbox).normalized viewbox = d.normalized viewbox := by
  have twice : (d.pieces.filterMap (Piece.normalized viewbox)).filterMap
      (Piece.normalized viewbox) = d.pieces.filterMap (Piece.normalized viewbox) := by
    rw [List.filterMap_filterMap]
    refine List.filterMap_congr fun p _ => ?_
    cases p with
    | space c white => rfl
    | named a =>
      rw [Piece.normalized]
      cases kept : a.normalized viewbox with
      | none => rfl
      | some b => exact congrArg (Option.map _) (Svg.normalized_again viewbox kept)
  rw [Document.normalized, Document.normalized, twice]

theorem rewriteSvgTag_document (d : Document) :
    rewriteSvgTag d.text (viewbox.map Subtype.val) = (d.normalized viewbox).text := by
  rw [d.rewriteSvgTag_text, d.strip_tag, strip_pieces viewbox d.closeApart,
    strip_plain _ d.closePlain]
  simp [Document.text, Document.tag, Document.normalized]

/-- The root tag of a document loses its size, takes the new view box where it has one, and keeps
all else and its order, as does all around it. Rewriting it again changes nothing. -/
theorem rewriteSvgTag_normalizes (d : Document) :
    rewriteSvgTag d.text (viewbox.map Subtype.val) = (d.normalized viewbox).text ∧
      rewriteSvgTag (rewriteSvgTag d.text (viewbox.map Subtype.val)) (viewbox.map Subtype.val) =
        rewriteSvgTag d.text (viewbox.map Subtype.val) ∧
      ∀ a, .named a ∈ (d.normalized viewbox).pieces →
        a.name ≠ "width".toList ∧ a.name ≠ "height".toList ∧
          ∀ value, viewbox = some value → a.name = "viewBox".toList → a.value = value.1 := by
  have once := rewriteSvgTag_document viewbox d
  refine ⟨once, ?_, fun a member => ?_⟩
  · rw [once, rewriteSvgTag_document, d.normalized_again]
  · obtain ⟨p, -, kept⟩ := List.mem_filterMap.mp member
    obtain ⟨original, kept⟩ : ∃ original, Attribute.normalized viewbox original = some a := by
      cases p with
      | space c white => cases kept
      | named original =>
        obtain ⟨b, kept, same⟩ := Option.map_eq_some_iff.mp kept
        cases same
        exact ⟨original, kept⟩
    rcases normalized_cases viewbox kept with ⟨box, taken⟩ | unlisted
    · rw [box]
      exact ⟨by decide, by decide, fun value given _ => taken value given⟩
    · have apart : ∀ name ∈ attributeNames, a.name ≠ name := fun _ listed same =>
        unlisted (same ▸ listed)
      exact ⟨apart _ (by decide), apart _ (by decide),
        fun _ _ box => absurd box (apart _ (by decide))⟩

end Polykit.Icons.Svg
