import Concordance.Proofs.Markdown.Regions
import Concordance.Proofs.Markdown.Running

/-!
# One paragraph for each outermost block

The outline of a document is taken from events that tell nothing but their level.  If the events
are well nested, this gives back their regions: each outermost region makes one paragraph, in
order, and what a region holds makes none.  The items of a list are counted up to the next event at
level zero, and this is the one that closes the list.

* `Region.paragraph` is what a region says, told from the region and not from its events.
* `countP_regionEvents`: among the events of regions, the items at their level are the regions that
  are items.
* `paragraphs_regionEvents`: the paragraphs of well-nested events are those of the regions.
* `outline_eq`: the outline of a document, block by block.
-/

namespace Concordance.Markdown

open Text

variable {level : Nat} {first last : Event} {rs inner : List Region} {definitions : Definitions}

/-! ## What regions say -/

/-- Whether a region is an item of a list. -/
def Region.isItem : Region → Bool
  | .single _ => false
  | .enclosure first _ _ => first.topic == .item

/-- The running text that a region is, if it is. -/
def Region.text : Region → Text
  | .single ⟨.running text, _, _, _⟩ => text
  | _ => []

/-- The number of the line of an event, from one on. -/
def Event.lineNumber (e : Event) : Option Int := e.line.map fun n => n + 1

/-- What a region says.  A heading is read from the running text in it, and a list has as many
items as it holds itself. -/
def Region.paragraph (definitions : Definitions) : Region → Paragraph
  | .single e =>
    match e.topic with
    | .code text => .code [] text e.lineNumber
    | .fence info text => .code ((words info).headD []) text e.lineNumber
    | topic => .other topic.name e.lineNumber
  | .enclosure first inner _ =>
    match first.topic with
    | .heading level =>
      .heading (headingOf first.lineNumber level (readSpans definitions
        (inner.flatMap Region.text)))
    | .list ordered => .list ordered (inner.countP Region.isItem) first.lineNumber
    | topic => .other topic.name first.lineNumber

/-! ## Items -/

/-- Whether an event opens an item at a level. -/
def Event.opensItem (level : Nat) (e : Event) : Bool :=
  e.topic == .item && e.nesting == .opens && e.level == level

theorem Region.countP_events {r : Region} (h : r.IsAt level) :
    r.events.countP (Event.opensItem level) = if r.isItem then 1 else 0 := by
  cases r with
  | single e =>
    have hnot : ¬ e.opensItem level = true := by simp [Event.opensItem, h.1]
    rw [Region.events, List.countP_cons_of_neg hnot]
    rfl
  | enclosure first inner last =>
    obtain ⟨hpair, -, hinner⟩ := h
    have hdeep : (regionEvents inner).countP (Event.opensItem level) = 0 := by
      refine List.countP_eq_zero.2 fun e he hopens => ?_
      have hlevel := le_level_regionEvents (level + 1) inner hinner e he
      simp only [Event.opensItem, Bool.and_eq_true, beq_iff_eq] at hopens
      omega
    have hlast : [last].countP (Event.opensItem level) = 0 := by
      simp [Event.opensItem, hpair.closes]
    rw [Region.events, List.countP_cons, List.countP_append, hdeep, hlast]
    simp [Event.opensItem, Region.isItem, hpair.opens, hpair.firstLevel]

/-- Among the events of regions, the items at their level are the regions that are items. -/
theorem countP_regionEvents (h : AreAt level rs) :
    (regionEvents rs).countP (Event.opensItem level) = rs.countP Region.isItem := by
  induction rs with
  | nil => rfl
  | cons r rs ih => rw [regionEvents, List.countP_append, r.countP_events h.1, ih h.2,
      List.countP_cons, Nat.add_comm]

/-- The items of a list are counted to its end, however they are filled. -/
theorem countItems_regionEvents (hinner : AreAt 1 inner) (hlast : last.level = 0)
    (rest : List Event) :
    countItems (regionEvents inner ++ last :: rest) = inner.countP Region.isItem := by
  have hbelow : ∀ e ∈ regionEvents inner, (e.level != 0) = true := by
    intro e he
    have hlevel := le_level_regionEvents 1 inner hinner e he
    simp only [bne_iff_ne]
    omega
  rw [countItems, List.takeWhile_append_of_pos hbelow,
    List.takeWhile_cons_of_neg (by simp [hlast]), List.append_nil]
  exact countP_regionEvents hinner

/-! ## Paragraphs -/

/-- What an event says that stands for itself. -/
theorem Event.paragraph_single {e : Event} (hpaired : e.topic.isPaired = false)
    (rest : List Event) :
    e.paragraph definitions rest = (Region.single e).paragraph definitions := by
  rw [Event.paragraph, Region.paragraph]
  cases htopic : e.topic with
  | heading level => simp [htopic, Topic.isPaired] at hpaired
  | list ordered => simp [htopic, Topic.isPaired] at hpaired
  | _ => rfl

/-- What an event says that opens a container. -/
theorem Event.paragraph_enclosure (h : (Region.enclosure first inner last).IsAt 0)
    (rest : List Event) :
    first.paragraph definitions (regionEvents inner ++ last :: rest) =
      (Region.enclosure first inner last).paragraph definitions := by
  obtain ⟨hpair, htext, hinner⟩ := h
  have hpaired := hpair.paired
  rw [Event.paragraph, Region.paragraph]
  cases htopic : first.topic with
  | heading level =>
    obtain ⟨text, level, line, rfl⟩ := htext (by rw [htopic]; rfl)
    simp [regionEvents, Region.events, runningText, Region.text, Event.lineNumber]
  | list ordered =>
    rw [countItems_regionEvents hinner hpair.lastLevel]
    rfl
  | code text => simp [htopic, Topic.isPaired] at hpaired
  | fence info text => simp [htopic, Topic.isPaired] at hpaired
  | _ => rfl

/-- What is inside a block says nothing by itself. -/
theorem paragraphs_append {es : List Event} (h : ∀ e ∈ es, 1 ≤ e.level) (rest : List Event) :
    paragraphs definitions (es ++ rest) = paragraphs definitions rest := by
  induction es with
  | nil => rfl
  | cons e es ih =>
    have hlevel : ¬ (e.level = 0 ∧ e.nesting ≠ .closes) := fun hzero => by
      have := h e List.mem_cons_self
      omega
    rw [List.cons_append, paragraphs, if_neg hlevel,
      ih fun e' he => h e' (List.mem_cons_of_mem _ he)]

/-- A region makes one paragraph, and what it holds makes none. -/
theorem paragraphs_region {r : Region} (h : r.IsAt 0) (rest : List Event) :
    paragraphs definitions (r.events ++ rest) =
      r.paragraph definitions :: paragraphs definitions rest := by
  cases r with
  | single e =>
    obtain ⟨hstands, hlevel, hpaired⟩ := h
    rw [Region.events, List.singleton_append, paragraphs, if_pos ⟨hlevel, by simp [hstands]⟩,
      e.paragraph_single hpaired]
  | enclosure first inner last =>
    have hpair := h.1
    rw [Region.enclosure_events_append, paragraphs,
      if_pos ⟨hpair.firstLevel, by simp [hpair.opens]⟩, Event.paragraph_enclosure h,
      paragraphs_append (le_level_regionEvents 1 inner h.2.2), paragraphs,
      if_neg (by simp [hpair.closes])]

theorem paragraphs_regionEvents (h : AreAt 0 rs) :
    paragraphs definitions (regionEvents rs) = rs.map (Region.paragraph definitions) := by
  induction rs with
  | nil => rfl
  | cons r rs ih => rw [regionEvents, paragraphs_region h.1, ih h.2, List.map_cons]

/-! ## Blocks -/

/-- What a block says in an outline; a definition says nothing. -/
def Block.paragraph? (definitions : Definitions) : Block → Option Paragraph
  | .paragraph line _ => some (.other Topic.paragraph.name (some (line + 1)))
  | .heading line level text =>
    some (.heading (headingOf (some (line + 1)) level (readSpans definitions text)))
  | .code line text => some (.code [] text (some (line + 1)))
  | .fence line info text => some (.code ((words info).headD []) text (some (line + 1)))
  | .markup line text => some (.other (Topic.markup text).name (some (line + 1)))
  | .thematicBreak line => some (.other Topic.thematicBreak.name (some (line + 1)))
  | .quote line _ => some (.other Topic.quote.name (some (line + 1)))
  | .list line start _ items => some (.list start.isSome items.length (some (line + 1)))
  | .table line _ _ => some (.other Topic.table.name (some (line + 1)))
  | .definition _ _ _ => none

/-- An item of a list is one, whatever it holds. -/
theorem Item.countP_events (i : Item) : (i.events level).countP (Event.opensItem level) = 1 := by
  obtain ⟨line, body⟩ := i
  obtain ⟨rs, hrs, heq⟩ := dividesAt_eventsIn (level + 1) body
  have hevents : (Item.mk line body).events level =
      (Region.enclosing .item level (some line) rs).events := by
    rw [Item.events, ← heq]
    rfl
  rw [hevents, Region.countP_events (Region.isAt_enclosing rfl rfl hrs)]
  rfl

theorem countP_eventsInItems (is : List Item) :
    (eventsInItems level is).countP (Event.opensItem level) = is.length := by
  induction is with
  | nil => rfl
  | cons i is ih => rw [eventsInItems, List.countP_append, i.countP_events, ih,
      List.length_cons, Nat.add_comm]

/-- A container says what its region says. -/
theorem paragraphs_enclosed (topic : Topic) {es : List Event} (hpaired : topic.isPaired = true)
    (hheading : topic.isHeading = false) (h : DividesAt 1 es) (line : Option Nat)
    (rest : List Event) :
    ∃ rs, AreAt 1 rs ∧ regionEvents rs = es ∧
      paragraphs definitions (enclosed topic 0 line es ++ rest) =
        (Region.enclosing topic 0 line rs).paragraph definitions ::
          paragraphs definitions rest := by
  obtain ⟨rs, hrs, rfl⟩ := h
  exact ⟨rs, hrs, rfl, paragraphs_region (Region.isAt_enclosing hpaired hheading hrs) rest⟩

theorem paragraphs_block (b : Block) (rest : List Event) :
    paragraphs definitions (b.events 0 ++ rest) =
      (b.paragraph? definitions).toList ++ paragraphs definitions rest := by
  cases b with
  | paragraph line text =>
    exact paragraphs_region (r := .running .paragraph 0 (some line) text)
      (Region.isAt_running rfl) rest
  | heading line level text =>
    have htext : [Region.single ⟨.running text, .stands, 1, some line⟩].flatMap
        Region.text = text :=
      List.append_nil text
    have hsays : (Region.running (.heading level) 0 (some line) text).paragraph definitions =
        .heading (headingOf (some (line + 1)) level (readSpans definitions text)) := by
      rw [Region.running, Region.enclosing, Region.paragraph]
      dsimp only
      rw [htext]
      rfl
    rw [Block.paragraph?, ← hsays]
    exact paragraphs_region (Region.isAt_running rfl) rest
  | code line text =>
    exact paragraphs_region (r := .single ⟨.code text, .stands, 0, some line⟩) ⟨rfl, rfl, rfl⟩ rest
  | fence line info text =>
    exact paragraphs_region (r := .single ⟨.fence info text, .stands, 0, some line⟩)
      ⟨rfl, rfl, rfl⟩ rest
  | markup line text =>
    exact paragraphs_region (r := .single ⟨.markup text, .stands, 0, some line⟩)
      ⟨rfl, rfl, rfl⟩ rest
  | thematicBreak line =>
    exact paragraphs_region (r := .single ⟨.thematicBreak, .stands, 0, some line⟩)
      ⟨rfl, rfl, rfl⟩ rest
  | quote line body =>
    obtain ⟨rs, -, -, hregion⟩ :=
      paragraphs_enclosed .quote rfl rfl (dividesAt_eventsIn 1 body) (some line) rest
    exact hregion
  | list line start tight items =>
    obtain ⟨rs, hrs, heq, hregion⟩ :=
      paragraphs_enclosed (.list start.isSome) rfl rfl (dividesAt_eventsInItems 1 items)
        (some line) rest
    have hitems : rs.countP Region.isItem = items.length := by
      rw [← countP_regionEvents hrs, heq, countP_eventsInItems]
    rw [Block.paragraph?, ← hitems]
    exact hregion
  | table line head rows =>
    obtain ⟨rs, -, -, hregion⟩ :=
      paragraphs_enclosed .table rfl rfl (.table head rows) (some line) rest
    exact hregion
  | definition key destination title => rfl

/-- The outermost blocks say one after another what they say. -/
theorem paragraphs_eventsIn (bs : List Block) :
    paragraphs definitions (eventsIn 0 bs) = bs.filterMap (Block.paragraph? definitions) := by
  induction bs with
  | nil => rfl
  | cons b bs ih =>
    rw [eventsIn, paragraphs_block, ih, List.filterMap_cons]
    cases b.paragraph? definitions <;> rfl

/-- The outline of a text, block by block. -/
theorem outline_eq (t : Text) : outline t =
    (blocks (prepare t)).filterMap (Block.paragraph? (definitionsIn (blocks (prepare t)))) :=
  paragraphs_eventsIn _

/-- **The outline mirrors the outermost blocks.**  Events that are well nested divide into regions
in exactly one way, and their paragraphs are what the outermost regions say, one for each and in
order; in particular a list has as many items as it holds itself, whatever the items hold.  A
heading has a tidy title with the words of its running text, and names each image and each raw tag
in it, in order.  The events of blocks are well nested, however these hold one another, and each
block but a definition makes one paragraph. -/
theorem paragraphs_mirror_regions :
    (∀ definitions es, WellNested es → ∃ rs, AreAt 0 rs ∧ regionEvents rs = es ∧
      (∀ rs', AreAt 0 rs' → regionEvents rs' = es → rs' = rs) ∧
      paragraphs definitions es = rs.map (Region.paragraph definitions)) ∧
    (∀ line level spans, (headingOf line level spans).Tells (spanEvents spans)) ∧
    ∀ definitions bs, WellNested (eventsIn 0 bs) ∧
      paragraphs definitions (eventsIn 0 bs) = bs.filterMap (Block.paragraph? definitions) := by
  refine ⟨fun definitions es h => ?_, tells_headingOf,
    fun _ bs => ⟨wellNested_eventsIn bs, paragraphs_eventsIn bs⟩⟩
  obtain ⟨rs, hrs, rfl⟩ := wellNested_iff.1 h
  refine ⟨rs, hrs, rfl, fun rs' hrs' heq => ?_, paragraphs_regionEvents hrs⟩
  exact regions_unique hrs' hrs heq

/-- Two lists side by side, a list in a quote in the first of them, and a heading. -/
def adjacentLists : List Block := [
  .list 0 none false [
    .mk 0 [.paragraph 0 "a".toList, .quote 1 [.list 1 (some 1) true
      [.mk 1 [.code 1 "* b".toList], .mk 2 []]]], .mk 3 [.fence 3 "antlr".toList "* c".toList]],
  .list 4 none true [.mk 4 []], .heading 5 2 "d  `e`".toList]

theorem paragraphs_mirror_regions_adjacentLists :
    WellNested (eventsIn 0 adjacentLists) ∧
    paragraphs [] (eventsIn 0 adjacentLists) = [.list false 2 (some 1), .list false 1 (some 5),
      .heading { level := 2, text := "d e".toList, line := some 6 }] ∧
    ∃ rs, AreAt 0 rs ∧ regionEvents rs = eventsIn 0 adjacentLists ∧ rs.length = 3 := by
  have hnested : WellNested (eventsIn 0 adjacentLists) := by decide +kernel
  have hparagraphs : paragraphs [] (eventsIn 0 adjacentLists) = [.list false 2 (some 1),
      .list false 1 (some 5), .heading { level := 2, text := "d e".toList, line := some 6 }] := by
    decide +kernel
  obtain ⟨rs, hrs, hevents, -, hmap⟩ :=
    paragraphs_mirror_regions.1 [] (eventsIn 0 adjacentLists) hnested
  refine ⟨hnested, hparagraphs, rs, hrs, hevents, ?_⟩
  have hlength := congrArg List.length (hparagraphs.symm.trans hmap)
  rw [List.length_map] at hlength
  exact hlength.symm

end Concordance.Markdown
