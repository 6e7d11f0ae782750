import Concordance.Markdown.Outline

/-!
# The regions of a sequence of events

A sequence of events is flat: an event tells only its level, and whether it opens, closes or stands
for itself.  If each event that opens has one that closes, the sequence is that of a forest of
regions, and of one forest only.  The blocks of a document make such a sequence, however they hold
one another.

* `nests` reads a sequence with the open containers on a stack, and `WellNested` says that it comes
  to an end with none.
* `Region` is an event with all that it holds, and `AreAt` says that regions lie side by side at a
  level.
* `nests_regionEvents`: regions leave the stack as it was.
* `wellNested_iff`: exactly the well-nested sequences are those of regions, and `regions_unique` of
  which ones.
* `DividesAt` says that events are those of regions at a level; `dividesAt_eventsIn` says it of the
  events of blocks.
-/

namespace Concordance.Markdown

open Text

variable {around outer : List Topic} {e first last : Event} {es rest rest' : List Event}
  {level : Nat} {topic : Topic}

/-! ## Well-nested events -/

/-- Whether the events of a topic come in pairs around others. -/
def Topic.isPaired : Topic → Bool
  | .code _ | .fence _ _ | .markup _ | .thematicBreak | .running _ => false
  | _ => true

def Topic.isHeading : Topic → Bool
  | .heading _ => true
  | _ => false

/-- Whether events begin with one piece of running text and the end of what holds it. -/
def holdText : List Event → Bool
  | ⟨.running _, .stands, _, _⟩ :: e :: _ => e.nesting == .closes
  | _ => false

/-- Whether events close all containers that are open around them, the innermost one first, and no
others but those that they open themselves.  The level of an event is the number of containers
around it, and a heading holds one piece of running text. -/
def nests : List Topic → List Event → Bool
  | around, [] => around.isEmpty
  | around, e :: es =>
    match e.nesting, around with
    | .stands, _ => !e.topic.isPaired && e.level == around.length && nests around es
    | .opens, _ =>
      e.topic.isPaired && e.level == around.length && (!e.topic.isHeading || holdText es) &&
        nests (e.topic :: around) es
    | .closes, [] => false
    | .closes, topic :: outer => e.topic == topic && e.level == outer.length && nests outer es

/-- Events in which each container that is opened is closed. -/
def WellNested (es : List Event) : Prop := nests [] es = true

instance (es : List Event) : Decidable (WellNested es) :=
  inferInstanceAs (Decidable (nests [] es = true))

theorem holdText_eq_true_iff : holdText es = true ↔ ∃ text level line last rest,
    es = ⟨.running text, .stands, level, line⟩ :: last :: rest ∧ last.nesting = .closes := by
  constructor
  · intro h
    rw [holdText.eq_def] at h
    split at h
    · exact ⟨_, _, _, _, _, rfl, eq_of_beq h⟩
    · cases h
  · rintro ⟨text, level, line, last, rest, rfl, hlast⟩
    simp [holdText, hlast]

theorem nests_stands (h : e.nesting = .stands) : nests around (e :: es) = true ↔
    e.topic.isPaired = false ∧ e.level = around.length ∧ nests around es = true := by
  simp only [nests, h, Bool.and_eq_true, Bool.not_eq_true', beq_iff_eq, and_assoc]

theorem nests_opens (h : e.nesting = .opens) : nests around (e :: es) = true ↔
    e.topic.isPaired = true ∧ e.level = around.length ∧
      (e.topic.isHeading = true → holdText es = true) ∧
      nests (e.topic :: around) es = true := by
  simp only [nests, h, Bool.and_eq_true, Bool.or_eq_true, Bool.not_eq_true', beq_iff_eq, and_assoc]
  cases e.topic.isHeading <;> simp

theorem nests_closes (h : e.nesting = .closes) : nests around (e :: es) = true ↔
    ∃ outer, around = e.topic :: outer ∧ e.level = outer.length ∧ nests outer es = true := by
  cases around with
  | nil => simp [nests, h]
  | cons topic outer =>
    simp only [nests, h, Bool.and_eq_true, beq_iff_eq, List.cons.injEq, and_assoc]
    constructor
    · rintro ⟨rfl, hlevel, hrest⟩
      exact ⟨outer, rfl, rfl, hlevel, hrest⟩
    · rintro ⟨_, rfl, rfl, hlevel, hrest⟩
      exact ⟨rfl, hlevel, hrest⟩

/-! ## Regions -/

/-- A region of a sequence of events: an event that stands for itself, or all from an event that
opens a container to the one that closes it. -/
inductive Region where
  | single (e : Event)
  | enclosure (first : Event) (inner : List Region) (last : Event)

mutual

/-- The events of a region. -/
def Region.events : Region → List Event
  | .single e => [e]
  | .enclosure first inner last => first :: (regionEvents inner ++ [last])

/-- The events of regions, one behind the other. -/
def regionEvents : List Region → List Event
  | [] => []
  | r :: rs => r.events ++ regionEvents rs

end

theorem Region.enclosure_events_append (first last : Event) (inner : List Region)
    (rest : List Event) :
    (Region.enclosure first inner last).events ++ rest =
      first :: (regionEvents inner ++ last :: rest) := by
  simp [Region.events]

/-- One piece of running text and nothing else. -/
def IsText (rs : List Region) : Prop :=
  ∃ text level line, rs = [.single ⟨.running text, .stands, level, line⟩]

/-- An event that opens a container at a level, and the event that closes it. -/
structure IsPair (level : Nat) (first last : Event) : Prop where
  opens : first.nesting = .opens
  closes : last.nesting = .closes
  firstLevel : first.level = level
  lastLevel : last.level = level
  topic : last.topic = first.topic
  paired : first.topic.isPaired = true

mutual

/-- A region at a level; what it holds is at the next one. -/
def Region.IsAt (level : Nat) : Region → Prop
  | .single e => e.nesting = .stands ∧ e.level = level ∧ e.topic.isPaired = false
  | .enclosure first inner last =>
    IsPair level first last ∧ (first.topic.isHeading = true → IsText inner) ∧
      AreAt (level + 1) inner

/-- Regions that lie side by side at a level. -/
def AreAt (level : Nat) : List Region → Prop
  | [] => True
  | r :: rs => r.IsAt level ∧ AreAt level rs

end

/-- A region begins with an event that closes nothing. -/
theorem Region.IsAt.exists_cons {r : Region} (h : r.IsAt level) :
    ∃ e es, r.events = e :: es ∧ e.nesting ≠ .closes := by
  cases r with
  | single e =>
    obtain ⟨hstands, -⟩ := h
    exact ⟨e, [], rfl, by simp [hstands]⟩
  | enclosure first inner last =>
    obtain ⟨hpair, -⟩ := h
    exact ⟨first, _, rfl, by simp [hpair.opens]⟩

/-- What an event opens leaves the open containers as they were, if it closes nothing but
itself. -/
theorem nests_pair (hpair : IsPair around.length first last)
    (hhold : first.topic.isHeading = true → holdText (es ++ last :: rest) = true)
    (hinner : nests (first.topic :: around) (es ++ last :: rest) = true ↔
      nests (first.topic :: around) (last :: rest) = true) :
    nests around (first :: (es ++ last :: rest)) = true ↔ nests around rest = true := by
  constructor
  · intro h
    obtain ⟨-, -, -, h⟩ := (nests_opens hpair.opens).1 h
    obtain ⟨outer, heq, -, h⟩ := (nests_closes hpair.closes).1 (hinner.1 h)
    rwa [(List.cons.inj heq).2]
  · intro h
    have hclose : nests (first.topic :: around) (last :: rest) = true :=
      (nests_closes hpair.closes).2 ⟨around, by rw [hpair.topic], hpair.lastLevel, h⟩
    exact (nests_opens hpair.opens).2 ⟨hpair.paired, hpair.firstLevel, hhold, hinner.2 hclose⟩

-- The recursion is that of the regions; what is open around them and what stands behind them are
-- arbitrary.
mutual

/-- A region leaves the open containers as they were. -/
theorem Region.nests_append (around : List Topic) (rest : List Event) :
    ∀ r : Region, r.IsAt around.length →
      (nests around (r.events ++ rest) = true ↔ nests around rest = true)
  | .single e, h => by
    obtain ⟨hstands, hlevel, hpaired⟩ := h
    rw [Region.events, List.singleton_append, nests_stands hstands]
    simp [hlevel, hpaired]
  | .enclosure first inner last, h => by
    obtain ⟨hpair, htext, hinner⟩ := h
    rw [Region.enclosure_events_append]
    refine nests_pair hpair (fun hheading => ?_) (nests_regionEvents (first.topic :: around)
      (last :: rest) inner hinner)
    obtain ⟨text, level, line, rfl⟩ := htext hheading
    exact holdText_eq_true_iff.2 ⟨text, level, line, last, rest, rfl, hpair.closes⟩

theorem nests_regionEvents (around : List Topic) (rest : List Event) :
    ∀ rs : List Region, AreAt around.length rs →
      (nests around (regionEvents rs ++ rest) = true ↔ nests around rest = true)
  | [], _ => Iff.rfl
  | r :: rs, h => by
    rw [regionEvents, List.append_assoc, r.nests_append around _ h.1,
      nests_regionEvents around rest rs h.2]

end

/-! ## From events to regions -/

/-- What stands behind the regions in a container: the event that closes it and what is behind
that, or nothing if no container is open. -/
def ClosesFirst : List Topic → List Event → Prop
  | [], rest => rest = []
  | topic :: outer, rest => ∃ last behind, rest = last :: behind ∧ last.nesting = .closes ∧
      last.topic = topic ∧
      last.level = outer.length ∧ nests outer behind = true

/-- A container that holds one piece of running text holds no other region. -/
theorem isText_of_holdText {inner : List Region} (hinner : AreAt level inner)
    (hlast : last.nesting = .closes)
    (h : holdText (regionEvents inner ++ last :: rest) = true) : IsText inner := by
  obtain ⟨text, level', line, final, behind, heq, hfinal⟩ := holdText_eq_true_iff.1 h
  cases inner with
  | nil =>
    rw [regionEvents, List.nil_append, List.cons.injEq] at heq
    rw [heq.1] at hlast
    cases hlast
  | cons r rs =>
    rw [regionEvents, List.append_assoc] at heq
    cases r with
    | enclosure first inside final =>
      have hopens := hinner.1.1.opens
      rw [Region.events, List.cons_append, List.cons.injEq] at heq
      rw [heq.1] at hopens
      cases hopens
    | single e =>
      rw [Region.events, List.singleton_append, List.cons.injEq] at heq
      obtain ⟨rfl, heq⟩ := heq
      cases rs with
      | nil => exact ⟨text, level', line, rfl⟩
      | cons r rs =>
        obtain ⟨e, es, hevents, hne⟩ := hinner.2.1.exists_cons
        rw [regionEvents, hevents, List.cons_append, List.cons_append, List.cons.injEq] at heq
        rw [heq.1] at hne
        exact absurd hfinal hne

/-- Events that close what is open around them begin with regions, and what closes the innermost
container is behind these. -/
theorem exists_regions (h : nests around es = true) :
    ∃ rs rest, es = regionEvents rs ++ rest ∧ AreAt around.length rs ∧
      ClosesFirst around rest := by
  induction hn : es.length using Nat.strongRecOn generalizing around es with
  | ind n ih =>
    cases es with
    | nil =>
      have hnone : around = [] := List.isEmpty_iff.1 h
      subst hnone
      exact ⟨[], [], rfl, trivial, rfl⟩
    | cons e es =>
      rw [List.length_cons] at hn
      cases hnesting : e.nesting with
      | stands =>
        obtain ⟨hpaired, hlevel, hrest⟩ := (nests_stands hnesting).1 h
        obtain ⟨rs, rest, rfl, hrs, hcloses⟩ := ih es.length (by omega) hrest rfl
        exact ⟨.single e :: rs, rest, rfl, ⟨⟨hnesting, hlevel, hpaired⟩, hrs⟩, hcloses⟩
      | closes =>
        obtain ⟨outer, rfl, hlevel, hrest⟩ := (nests_closes hnesting).1 h
        exact ⟨[], e :: es, rfl, trivial, e, es, rfl, hnesting, rfl, hlevel, hrest⟩
      | opens =>
        obtain ⟨hpaired, hlevel, hhold, hrest⟩ := (nests_opens hnesting).1 h
        -- First what the container holds, then what stands behind it.
        obtain ⟨inner, _, rfl, hinner, last, behind, rfl, hlast, htopic, hlastLevel, hbehind⟩ :=
          ih es.length (by omega) hrest rfl
        have hlength : behind.length < n := by
          rw [← hn, List.length_append, List.length_cons]
          omega
        obtain ⟨rs, rest, rfl, hrs, hcloses⟩ := ih behind.length hlength hbehind rfl
        refine ⟨.enclosure e inner last :: rs, rest, ?_, ⟨⟨?_, ?_, hinner⟩, hrs⟩, hcloses⟩
        · simp [regionEvents, Region.events]
        · exact ⟨hnesting, hlast, hlevel, hlastLevel, htopic, hpaired⟩
        · exact fun hheading => isText_of_holdText hinner hlast (hhold hheading)

/-- Exactly the well-nested sequences are those of regions. -/
theorem wellNested_iff : WellNested es ↔ ∃ rs, AreAt 0 rs ∧ regionEvents rs = es := by
  constructor
  · intro h
    obtain ⟨rs, _, rfl, hrs, rfl⟩ := exists_regions h
    exact ⟨rs, hrs, (List.append_nil _).symm⟩
  · rintro ⟨rs, hrs, rfl⟩
    have hnests := (nests_regionEvents [] [] rs hrs).2 rfl
    rwa [List.append_nil] at hnests

-- Two ways to divide events into regions are the same: they agree on the first region, and then on
-- the rest.
mutual

theorem Region.eq_of_append :
    ∀ (r r' : Region) (level : Nat) (rest rest' : List Event), r.IsAt level → r'.IsAt level →
      r.events ++ rest = r'.events ++ rest' → r = r' ∧ rest = rest'
  | .single e, .single e', _, rest, rest', _, _, heq => by
    simp only [Region.events, List.singleton_append, List.cons.injEq] at heq
    rw [heq.1, heq.2]
    exact ⟨rfl, rfl⟩
  | .single e, .enclosure first inner last, _, rest, rest', h, h', heq => by
    simp only [Region.events, List.cons_append, List.cons.injEq] at heq
    have hstands := h.1
    rw [heq.1, h'.1.opens] at hstands
    cases hstands
  | .enclosure first inner last, .single e, _, rest, rest', h, h', heq => by
    simp only [Region.events, List.cons_append, List.cons.injEq] at heq
    have hstands := h'.1
    rw [← heq.1, h.1.opens] at hstands
    cases hstands
  | .enclosure first inner last, .enclosure first' inner' last', level, rest, rest', h, h',
      heq => by
    simp only [Region.events, List.cons_append, List.append_assoc, List.cons.injEq] at heq
    obtain ⟨hfirst, heq⟩ := heq
    obtain ⟨hinner, hrest⟩ :=
      regions_eq_of_append inner inner' (level + 1) (last :: rest) (last' :: rest') h.2.2 h'.2.2
        (by simp [h.1.closes]) (by simp [h'.1.closes]) heq
    obtain ⟨hlast, hrest⟩ := List.cons.inj hrest
    rw [hfirst, hinner, hlast]
    exact ⟨rfl, hrest⟩

theorem regions_eq_of_append :
    ∀ (rs rs' : List Region) (level : Nat) (rest rest' : List Event),
      AreAt level rs → AreAt level rs' →
      (∀ e ∈ rest.head?, e.nesting = .closes) → (∀ e ∈ rest'.head?, e.nesting = .closes) →
      regionEvents rs ++ rest = regionEvents rs' ++ rest' → rs = rs' ∧ rest = rest'
  | [], [], _, _, _, _, _, _, _, heq => ⟨rfl, heq⟩
  | [], r' :: rs', _, rest, rest', _, h', hrest, _, heq => by
    obtain ⟨e, es, hevents, hne⟩ := h'.1.exists_cons
    rw [regionEvents, List.nil_append, regionEvents, hevents] at heq
    exact absurd (hrest e (by rw [heq]; rfl)) hne
  | r :: rs, [], _, rest, rest', h, _, _, hrest', heq => by
    obtain ⟨e, es, hevents, hne⟩ := h.1.exists_cons
    rw [regionEvents, regionEvents, List.nil_append, hevents] at heq
    exact absurd (hrest' e (by rw [← heq]; rfl)) hne
  | r :: rs, r' :: rs', level, rest, rest', h, h', hrest, hrest', heq => by
    rw [regionEvents, regionEvents, List.append_assoc, List.append_assoc] at heq
    obtain ⟨hfirst, hbehind⟩ := r.eq_of_append r' level _ _ h.1 h'.1 heq
    obtain ⟨hregions, hend⟩ :=
      regions_eq_of_append rs rs' level rest rest' h.2 h'.2 hrest hrest' hbehind
    rw [hfirst, hregions]
    exact ⟨rfl, hend⟩

end

/-- The regions of a sequence are told from it. -/
theorem regions_unique {rs rs' : List Region} (h : AreAt level rs) (h' : AreAt level rs')
    (heq : regionEvents rs = regionEvents rs') : rs = rs' := by
  refine (regions_eq_of_append rs rs' level [] [] h h' (by simp) (by simp) ?_).1
  rw [List.append_nil, List.append_nil, heq]

/-! ## Levels -/

-- One theorem for each kind of tree; the recursion is that of the regions.
mutual

/-- The events of a region are at its level or deeper. -/
theorem Region.le_level (level : Nat) :
    ∀ r : Region, r.IsAt level → ∀ e ∈ r.events, level ≤ e.level
  | .single e, h => fun e' he' => by
    obtain rfl := List.mem_singleton.1 he'
    exact Nat.le_of_eq h.2.1.symm
  | .enclosure first inner last, h => fun e he => by
    rcases List.mem_cons.1 he with rfl | he
    · exact Nat.le_of_eq h.1.firstLevel.symm
    · rcases List.mem_append.1 he with he | he
      · exact Nat.le_of_succ_le (le_level_regionEvents (level + 1) inner h.2.2 e he)
      · rw [List.mem_singleton.1 he]
        exact Nat.le_of_eq h.1.lastLevel.symm

theorem le_level_regionEvents (level : Nat) :
    ∀ rs : List Region, AreAt level rs → ∀ e ∈ regionEvents rs, level ≤ e.level
  | [], _ => fun _ he => absurd he List.not_mem_nil
  | r :: rs, h => fun e he => by
    rcases List.mem_append.1 he with he | he
    · exact r.le_level level h.1 e he
    · exact le_level_regionEvents level rs h.2 e he

end

/-! ## Events of blocks -/

theorem regionEvents_append (rs rs' : List Region) :
    regionEvents (rs ++ rs') = regionEvents rs ++ regionEvents rs' := by
  induction rs with
  | nil => rfl
  | cons r rs ih => rw [List.cons_append, regionEvents, regionEvents, ih, List.append_assoc]

theorem areAt_append {rs rs' : List Region} (h : AreAt level rs) (h' : AreAt level rs') :
    AreAt level (rs ++ rs') := by
  induction rs with
  | nil => exact h'
  | cons r rs ih => exact ⟨h.1, ih h.2⟩

/-- The region of a container around regions, as blocks have it. -/
def Region.enclosing (topic : Topic) (level : Nat) (line : Option Nat)
    (inner : List Region) : Region :=
  .enclosure ⟨topic, .opens, level, line⟩ inner ⟨topic, .closes, level, none⟩

theorem Region.isAt_enclosing {line : Option Nat} {inner : List Region}
    (hpaired : topic.isPaired = true)
    (hheading : topic.isHeading = false) (hinner : AreAt (level + 1) inner) :
    (Region.enclosing topic level line inner).IsAt level := by
  refine ⟨⟨rfl, rfl, rfl, rfl, rfl, hpaired⟩, fun h => ?_, hinner⟩
  rw [hheading] at h
  cases h

/-- The region of running text in a container. -/
def Region.running (topic : Topic) (level : Nat) (line : Option Nat) (text : Text) : Region :=
  .enclosing topic level line [.single ⟨.running text, .stands, level + 1, line⟩]

theorem Region.isAt_running {line : Option Nat} {text : Text} (hpaired : topic.isPaired = true) :
    (Region.running topic level line text).IsAt level :=
  ⟨⟨rfl, rfl, rfl, rfl, rfl, hpaired⟩, fun _ => ⟨text, level + 1, line, rfl⟩,
    ⟨rfl, rfl, rfl⟩, trivial⟩

/-- Events that are those of regions at a level. -/
def DividesAt (level : Nat) (es : List Event) : Prop := ∃ rs, AreAt level rs ∧ regionEvents rs = es

namespace DividesAt

variable {line : Option Nat} {inner : List Event} {text : Text}

theorem nil : DividesAt level [] := ⟨[], trivial, rfl⟩

theorem append {es es' : List Event} (h : DividesAt level es) (h' : DividesAt level es') :
    DividesAt level (es ++ es') := by
  obtain ⟨rs, hrs, rfl⟩ := h
  obtain ⟨rs', hrs', rfl⟩ := h'
  exact ⟨rs ++ rs', areAt_append hrs hrs', regionEvents_append rs rs'⟩

theorem flatMap {α : Type} {f : α → List Event} (h : ∀ x, DividesAt level (f x)) (xs : List α) :
    DividesAt level (xs.flatMap f) := by
  induction xs with
  | nil => exact nil
  | cons x xs ih => exact (h x).append ih

theorem ofRegion {r : Region} (h : r.IsAt level) : DividesAt level r.events :=
  ⟨[r], ⟨h, trivial⟩, List.append_nil _⟩

theorem single (hpaired : topic.isPaired = false) :
    DividesAt level [⟨topic, .stands, level, line⟩] :=
  ofRegion (r := .single ⟨topic, .stands, level, line⟩) ⟨rfl, rfl, hpaired⟩

theorem enclosed (hpaired : topic.isPaired = true) (hheading : topic.isHeading = false)
    (h : DividesAt (level + 1) inner) : DividesAt level (enclosed topic level line inner) := by
  obtain ⟨rs, hrs, rfl⟩ := h
  exact ofRegion (Region.isAt_enclosing hpaired hheading hrs)

theorem running (hpaired : topic.isPaired = true) :
    DividesAt level (runningIn topic level line text) :=
  ofRegion (Region.isAt_running hpaired)

theorem row (hpaired : topic.isPaired = true) (cells : List Text) :
    DividesAt level (rowEvents topic level cells) :=
  enclosed rfl rfl (flatMap (fun _ => running hpaired) cells)

theorem table (head : List Text) (rows : List (List Text)) :
    DividesAt level (tableEvents level head rows) := by
  refine (enclosed rfl rfl (row rfl head)).append ?_
  split
  · exact nil
  · exact enclosed rfl rfl (flatMap (row rfl) rows)

theorem le_level {es : List Event} (h : DividesAt level es) : ∀ e ∈ es, level ≤ e.level := by
  obtain ⟨rs, hrs, rfl⟩ := h
  exact le_level_regionEvents level rs hrs

end DividesAt

-- One theorem for each kind of tree; the recursion is that of the events.
mutual

/-- The events of a block are those of regions at its level. -/
theorem Block.dividesAt (level : Nat) : ∀ b : Block, DividesAt level (b.events level)
  | .paragraph _ _ => .running rfl
  | .heading _ _ _ => .running rfl
  | .code _ _ => .single rfl
  | .fence _ _ _ => .single rfl
  | .markup _ _ => .single rfl
  | .thematicBreak _ => .single rfl
  | .quote _ body => .enclosed rfl rfl (dividesAt_eventsIn (level + 1) body)
  | .list _ _ _ items => .enclosed rfl rfl (dividesAt_eventsInItems (level + 1) items)
  | .table _ head rows => .enclosed rfl rfl (.table head rows)
  | .definition _ _ _ => .nil

theorem Item.dividesAt (level : Nat) : ∀ i : Item, DividesAt level (i.events level)
  | .mk _ body => .enclosed rfl rfl (dividesAt_eventsIn (level + 1) body)

theorem dividesAt_eventsIn (level : Nat) : ∀ bs : List Block, DividesAt level (eventsIn level bs)
  | [] => .nil
  | b :: bs => (b.dividesAt level).append (dividesAt_eventsIn level bs)

theorem dividesAt_eventsInItems (level : Nat) :
    ∀ is : List Item, DividesAt level (eventsInItems level is)
  | [] => .nil
  | i :: is => (i.dividesAt level).append (dividesAt_eventsInItems level is)

end

/-- However blocks hold one another, their events are well nested. -/
theorem wellNested_eventsIn (bs : List Block) : WellNested (eventsIn 0 bs) :=
  wellNested_iff.2 (dividesAt_eventsIn 0 bs)

end Concordance.Markdown
