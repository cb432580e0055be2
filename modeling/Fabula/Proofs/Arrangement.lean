import Mathlib.Data.List.Basic
import Fabula.Proofs.Restart
import Fabula.Proofs.Template
import Fabula.Proofs.Twin

set_option autoImplicit false

namespace Fabula

namespace Node

section

variable {areas areas' items items' : List String}

theorem cueComplaints_congr (ha : ∀ id, id ∈ areas ↔ id ∈ areas') (scene : Option String)
    (n : Node) : cueComplaints areas scene n = cueComplaints areas' scene n := by
  induction n using induct with
  | step n ih =>
    obtain ⟨name, attributes, value, children⟩ := n
    have hchildren :
        cuesComplaints areas scene children = cuesComplaints areas' scene children := by
      rw [cuesComplaints_eq, cuesComplaints_eq]
      exact List.flatMap_congr ih
    simp only [cueComplaints, ha, hchildren]

theorem mentionComplaints_congr (hi : ∀ id, id ∈ items ↔ id ∈ items') (holder : Holder)
    (n : Node) : mentionComplaints items holder n = mentionComplaints items' holder n := by
  simp only [mentionComplaints, hi]

theorem exitComplaints_congr (ha : ∀ id, id ∈ areas ↔ id ∈ areas')
    (hi : ∀ id, id ∈ items ↔ id ∈ items') (area : Option String) (n : Node) :
    exitComplaints areas items area n = exitComplaints areas' items' area n := by
  simp only [exitComplaints, ha, hi]

theorem areaComplaints_congr (ha : ∀ id, id ∈ areas ↔ id ∈ areas')
    (hi : ∀ id, id ∈ items ↔ id ∈ items') (n : Node) :
    areaComplaints areas items n = areaComplaints areas' items' n := by
  simp only [areaComplaints, fixtureComplaints, mentionComplaints_congr hi,
    exitComplaints_congr ha hi, funext (mentionComplaints_congr hi _)]

end

/-- Nodes with a name in common, and with the same children in any order. -/
structure Reordered (n m : Node) : Prop where
  name : n.name = m.name
  children : n.children.Perm m.children

theorem Reordered.symm {n m : Node} (h : n.Reordered m) : m.Reordered n :=
  ⟨h.name.symm, h.children.symm⟩

section

variable {root other : Node} (hr : root.Reordered other)

include hr

theorem Reordered.tagged (tag : String) :
    (root.children.filter (·.tagged tag)).Perm (other.children.filter (·.tagged tag)) :=
  hr.children.filter _

theorem Reordered.checked (h : root.Checked) : other.Checked := by
  have hperm : ∀ tag, (root.idsOf tag).Perm (other.idsOf tag) :=
    fun tag => (hr.tagged tag).filterMap _
  have hids : ∀ tag id, id ∈ root.idsOf tag ↔ id ∈ other.idsOf tag :=
    fun tag id => (hperm tag).mem_iff
  have hchild : ∀ n, n ∈ other.children → n ∈ root.children := fun n => hr.children.mem_iff.mpr
  exact {
    name := hr.name.symm.trans h.name
    ids := fun tag ht => by
      obtain ⟨hfilled, hnodup, -⟩ := idComplaints_eq_nil.mp (h.ids tag ht)
      refine idComplaints_eq_nil.mpr ⟨fun n hn => ?_, (hperm tag).nodup_iff.mp hnodup, by simp⟩
      exact hfilled n ((hr.tagged tag).mem_iff.mpr hn)
    start := (hids _ _).mp h.start
    items := fun n hn => h.items n (hchild n hn)
    scenes := fun n hn htag child hc => by
      rw [← cueComplaints_congr (hids "area")]
      exact h.scenes n (hchild n hn) htag child hc
    areas := fun n hn htag => by
      rw [← areaComplaints_congr (hids "area") (hids "item")]
      exact h.areas n (hchild n hn) htag }

theorem Reordered.complaints_eq_nil : root.complaints = [] ↔ other.complaints = [] := by
  rw [Node.complaints_eq_nil, Node.complaints_eq_nil]
  exact ⟨hr.checked, hr.symm.checked⟩

end

theorem Checked.get?_rows {root : Node} (h : root.Checked) {tag : String}
    (ht : tag ∈ ["entry", "area", "item"]) {α : Type} (f : Node → α) {id : String} {a : α} :
    (Table.ofRows ((root.children.filter (·.tagged tag)).map fun n => (n.attr "id", f n))).get? id =
      some a ↔ ∃ n ∈ root.children.filter (·.tagged tag), n.attr "id" = id ∧ f n = a := by
  rw [h.rows_eq ht, Table.get?_eq_some (by rw [h.keys_rows ht]; exact h.nodup_idsOf ht)]
  simp only [List.mem_map, Prod.mk.injEq]

end Node

namespace World

open Node

theorem id_of_area {n : Node} {a : Area} (h : n.area = .ok a) : a.id = n.attr "id" := by
  obtain ⟨items, -, hrest⟩ := bind_ok h
  obtain ⟨fixtures, -, ha⟩ := bind_ok hrest
  rw [← Except.ok.inj ha]

theorem fillAreas_isOk {nodes : List Node} {t : Table String Area} :
    (∃ filled, fillAreas t nodes = .ok filled) ↔ ∀ n ∈ nodes, ∃ a, n.area = .ok a := by
  induction nodes generalizing t with
  | nil => simp [fillAreas, pure, Except.pure]
  | cons n nodes ih =>
    cases ha : n.area with
    | error flaw => simp [fillAreas, ha, bind, Except.bind]
    | ok a =>
      rw [List.forall_mem_cons, ← ih (t := t.put a.id a)]
      simp [fillAreas, ha, bind, Except.bind]

theorem get?_fillAreas {nodes : List Node} {t filled : Table String Area}
    (h : fillAreas t nodes = .ok filled) (hids : (nodes.map (·.attr "id")).Nodup) :
    (∀ n ∈ nodes, ∀ a, n.area = .ok a → filled.get? (n.attr "id") = some a) ∧
    ∀ id ∉ nodes.map (·.attr "id"), filled.get? id = t.get? id := by
  induction nodes generalizing t with
  | nil =>
    cases h
    simp
  | cons n nodes ih =>
    cases ha : n.area with
    | error flaw => simp [fillAreas, ha, bind, Except.bind] at h
    | ok a =>
      simp only [fillAreas, ha, bind, Except.bind, id_of_area ha] at h
      rw [List.map_cons, List.nodup_cons] at hids
      obtain ⟨hlater, hnone⟩ := ih h hids.2
      refine ⟨fun m hm b hb => ?_, fun id hid => ?_⟩
      · rcases List.mem_cons.mp hm with rfl | hm
        · rw [hnone _ hids.1, Table.get?_put_self, Except.ok.inj (ha.symm.trans hb)]
        · exact hlater m hm b hb
      · rw [List.map_cons, List.mem_cons, not_or] at hid
        rw [hnone id hid.2, Table.get?_put_ne (Ne.symm hid.1)]

theorem load_isOk {root : Node} : (∃ w, load root = .ok w) ↔
    ∀ n ∈ root.children.filter (·.tagged "area"), ∃ a, n.area = .ok a := by
  rw [← fillAreas_isOk (t := Table.ofRows ((root.children.filter (·.tagged "area")).map fun n =>
    (n.attr "id", n.bareArea)))]
  simp only [load]
  cases fillAreas _ (root.children.filter (·.tagged "area")) <;>
    simp [bind, Except.bind, pure, Except.pure]

section

variable {root : Node} {w : World} (h : root.Checked) (hload : load root = .ok w)

include h hload

theorem area?_eq_some {id : String} {a : Area} : w.area? id = some a ↔
    ∃ n ∈ root.children.filter (·.tagged "area"), n.attr "id" = id ∧ n.area = .ok a := by
  have hids : ((root.children.filter (·.tagged "area")).map (·.attr "id")).Nodup := by
    rw [h.idsOf_eq (by simp)]
    exact h.nodup_idsOf (by simp)
  obtain ⟨areas, hfill, hareas, -⟩ := load_ok hload
  obtain ⟨hfound, hnone⟩ := get?_fillAreas hfill hids
  have hread := fillAreas_isOk.mp ⟨areas, hfill⟩
  rw [World.area?, hareas]
  constructor
  · intro ha
    by_cases hid : id ∈ (root.children.filter (·.tagged "area")).map (·.attr "id")
    · obtain ⟨n, hn, rfl⟩ := List.mem_map.mp hid
      obtain ⟨b, hb⟩ := hread n hn
      exact ⟨n, hn, rfl, by rw [hb, ← Option.some.inj ((hfound n hn b hb).symm.trans ha)]⟩
    · rw [hnone id hid, h.rows_eq (by simp)] at ha
      obtain ⟨n, hn, heq⟩ := List.mem_map.mp (Table.mem_of_get? ha)
      exact absurd (List.mem_map.mpr ⟨n, hn, congrArg Prod.fst heq⟩) hid
  · rintro ⟨n, hn, rfl, ha⟩
    exact hfound n hn a ha

theorem item?_eq_some {id : String} {item : Item} : w.item? id = some item ↔
    ∃ n ∈ root.children.filter (·.tagged "item"), n.attr "id" = id ∧ n.item = item := by
  have hitems : w.items = Table.ofRows ((root.children.filter (·.tagged "item")).map fun n =>
      (n.attr "id", n.item)) := by
    obtain ⟨areas, -, hw⟩ := bind_ok hload
    exact (Except.ok.inj hw) ▸ rfl
  rw [World.item?, hitems, h.get?_rows (by simp)]

theorem scene?_eq_some {id : String} {scene : Scene} : w.scene? id = some scene ↔
    ∃ n ∈ root.children.filter (·.tagged "entry"), n.attr "id" = id ∧ Scene.ofNode n = scene := by
  obtain ⟨areas, -, -, hscenes⟩ := load_ok hload
  rw [World.scene?, hscenes, h.get?_rows (by simp)]

end

/-- Worlds in which the same is found by every id. -/
structure Alike (w v : World) : Prop where
  area : ∀ id, w.area? id = v.area? id
  item : ∀ id, w.item? id = v.item? id
  scene : ∀ id, w.scene? id = v.scene? id

theorem Alike.twin {w v : World} (h : w.Alike v) : w.Twin (fun _ => True) v :=
  ⟨h.item, fun id _ => h.area id, fun id => by rw [h.area]⟩

section

variable {root other : Node} (hr : root.Reordered other)

include hr

theorem reordered_alike (h : root.Checked) {w v : World} (hw : load root = .ok w)
    (hv : load other = .ok v) : w.Alike v := by
  have hother := hr.checked h
  constructor <;> intro id <;> ext
  · rw [area?_eq_some h hw, area?_eq_some hother hv]
    simp only [(hr.tagged "area").mem_iff]
  · rw [item?_eq_some h hw, item?_eq_some hother hv]
    simp only [(hr.tagged "item").mem_iff]
  · rw [scene?_eq_some h hw, scene?_eq_some hother hv]
    simp only [(hr.tagged "entry").mem_iff]

theorem load_isOk_reordered : (∃ w, load root = .ok w) ↔ ∃ v, load other = .ok v := by
  rw [load_isOk, load_isOk]
  simp only [(hr.tagged "area").mem_iff]

end

theorem ofDocument_isOk_reordered {document other : Node}
    (hr : document.worldRoot.Reordered other.worldRoot) :
    (∃ w, ofDocument document = .ok w) ↔ ∃ v, ofDocument other = .ok v := by
  simp only [ofDocument_ok, exists_and_left, load_isOk_reordered hr]
  exact and_congr_left' ⟨hr.checked, hr.symm.checked⟩

end World

structure Outcome.Alike (o p : Outcome) : Prop where
  game : o.game.Twin (fun _ => True) p.game
  seen : o.seen = p.seen
  fault : o.fault = p.fault

theorem Outcome.Twin.alike {o p : Outcome} (h : o.Twin (fun _ => True) p) : o.Alike p :=
  ⟨h.game, by rw [Outcome.seen, h.events]; rfl, h.fault⟩

theorem Outcome.Alike.next {o p : Outcome} (hop : o.Alike p) {step step' : Game → Outcome}
    (hstep : (step o.game).Alike (step' p.game)) : (o.next step).Alike (p.next step') := by
  refine ⟨?_, ?_, ?_⟩
  · rw [next_game, next_game, ← hop.fault]
    split
    · exact hop.game
    · exact hstep.game
  · rw [next_seen, next_seen, hop.seen, hop.fault, hstep.seen]
  · rw [next_fault, next_fault, hop.fault, hstep.fault]

structure Turn.Alike (t u : Turn) : Prop where
  outcome : t.outcome.Alike u.outcome
  unread : t.unread = u.unread
  alive : t.alive = u.alive

theorem Turn.Alike.reply {t u : Turn} (h : t.Alike u) : t.reply = u.reply := by
  simp only [Turn.reply, h.outcome.seen, h.outcome.fault, h.alive, h.unread]

theorem Turn.Alike.closed {t u : Turn} (h : t.Alike u) : t.closed.Alike u.closed := by
  have hout : ({ t.outcome with fault := none } : Outcome).Alike
      { u.outcome with fault := none } := ⟨h.outcome.game, h.outcome.seen, rfl⟩
  have hbye := hout.next (Deed.perform_twin h.outcome.game (d := .say "farewell") (.inl rfl)).alike
  unfold Turn.closed
  rw [← h.outcome.fault]
  split
  · exact ⟨hbye, h.unread, h.alive⟩
  · exact ⟨hbye, h.unread, h.alive⟩
  · exact h

namespace Game

/-- Games that are twins in all areas, of documents that load to the same. -/
structure Peer (g h : Game) : Prop where
  twin : g.Twin (fun _ => True) h
  again : ∃ w v, World.load g.document.worldRoot = .ok w ∧
    World.load h.document.worldRoot = .ok v ∧ w.Alike v

section

variable {g h : Game} (hp : g.Peer h)

include hp

theorem Peer.reset : g.reset.Alike h.reset := by
  obtain ⟨w, v, hw, hv, hwv⟩ := hp.again
  refine ⟨?_, by rw [reset_seen, reset_seen], by rw [reset_eq hw, reset_eq hv]⟩
  rw [reset_game hw, reset_game hv]
  exact ⟨by simp only [fresh, hwv.scene], hp.twin.catalogue, hp.twin.traced, hwv.twin⟩

theorem Peer.execute (text : String) :
    (g.execute text).understood = (h.execute text).understood ∧
      (g.execute text).outcome.Alike (h.execute text).outcome := by
  by_cases hr : (Line.ofText text).verb = "restart"
  · -- A new start is from the documents, which differ: what is said before it is the same in twins.
    have hdeeds : ∀ k : Game,
        (Line.ofText text).deeds? k = some [.say "restarted", .restart] := fun k => by
      simp [Line.deeds?, hr, Verb.ofWord?, Verb.needsArgument, Verb.deeds]
    have hblank : ¬(Line.ofText text).verb = "" := by simp [hr]
    have hsay : ((Deed.say "restarted").perform g).Alike ((Deed.say "restarted").perform h) :=
      (Deed.perform_twin hp.twin (.inl rfl)).alike
    have hstart : (performAll [.restart] g).Alike (performAll [.restart] h) :=
      hp.reset.next hp.reset.game.done.alike
    simp only [Game.execute, hblank, if_false, hdeeds, true_and]
    refine (hp.twin.trace _ _).alike.next (hsay.next ?_)
    rw [Deed.perform_quiet rfl, Deed.perform_quiet rfl]
    exact hstart
  · obtain ⟨hunderstood, htwin⟩ := hp.twin.execute (fun _ _ => trivial) hr
    exact ⟨hunderstood, htwin.alike⟩

theorem Peer.reading {step step' : Game → String → Outcome}
    (hstep : ∀ text, (step g text).Alike (step' h text)) (lines : Lines) :
    (g.reading lines step).Alike (h.reading lines step') := by
  have hasked : (⟨g, [.asked g.catalogue.prompt], none⟩ : Outcome).Alike
      ⟨h, [.asked h.catalogue.prompt], none⟩ :=
    ⟨hp.twin, by rw [hp.twin.catalogue]; rfl, rfl⟩
  refine ⟨?_, by rw [reading_unread, reading_unread], by rw [reading_alive, reading_alive]⟩
  cases lines with
  | nil =>
    simp only [Game.reading]
    refine hasked.next ?_
    exact (hp.twin.failed .endOfInput).alike
  | cons line rest =>
    cases line with
    | none =>
      simp only [Game.reading]
      refine hasked.next ?_
      exact (hp.twin.failed .interrupted).alike
    | some text =>
      simp only [Game.reading]
      refine hasked.next ?_
      exact hstep text

theorem Peer.answer (cue : Cue) (line : String) :
    (Game.answer cue g line).Alike (Game.answer cue h line) := by
  unfold Game.answer
  cases cue.reply? line with
  | none => exact hp.twin.done.alike
  | some follow => exact (hp.twin.changeSession rfl).done.alike

theorem Peer.tick (lines : Lines) : (g.tick lines).Alike (h.tick lines) := by
  have hs := hp.twin.session
  have htakes := g.tick_takes lines
  generalize g.tick lines = t at htakes
  cases htakes with
  | finished hf =>
    rw [tick_finished (hs ▸ hf)]
    exact ⟨hp.twin.done.alike, rfl, rfl⟩
  | answered hf hpending =>
    rw [tick_pending (hs ▸ hf) (hs ▸ hpending)]
    exact hp.reading (hp.answer _) lines
  | queued hf hpending hq =>
    rw [tick_queued (hs ▸ hf) (hs ▸ hpending) (hs ▸ hq)]
    exact ⟨((hp.twin.changeSession rfl).play _).alike, rfl, rfl⟩
  | scripted hf hpending hq hr =>
    rw [tick_scripted (hs ▸ hf) (hs ▸ hpending) (hs ▸ hq) (hs ▸ hr)]
    exact ⟨((hp.twin.changeSession rfl).play _).alike, rfl, rfl⟩
  | commanded hstate =>
    rw [tick_awaiting (hs ▸ hstate)]
    exact hp.reading (fun text => (hp.execute text).2) lines

theorem Peer.reply (m : Move) : g.reply m = h.reply m := by
  cases m with
  | tick lines => exact (hp.tick lines).reply
  | execute text =>
    obtain ⟨hunderstood, ha⟩ := hp.execute text
    simp only [Game.reply, Answer.reply, ha.seen, ha.fault, hunderstood]
  | reset => simp only [Game.reply, hp.reset.seen, hp.reset.fault]

/-- Peers stay peers, whatever is done to them, as long as their stories stay the same. -/
theorem Peer.of_twin {g' h' : Game} (ht : g'.Twin (fun _ => True) h') (hg : g.SameStory g')
    (hh : h.SameStory h') : g'.Peer h' :=
  ⟨ht, by rw [hg.document, hh.document]; exact hp.again⟩

theorem Peer.move (m : Move) : (g.move m).Peer (h.move m) := by
  refine hp.of_twin ?_ (g.move_sameStory m) (h.move_sameStory m)
  cases m with
  | tick lines => exact (hp.tick lines).outcome.game
  | execute text => exact (hp.execute text).2.game
  | reset => exact hp.reset.game

theorem Peer.after (moves : List Move) : (g.after moves).Peer (h.after moves) := by
  induction moves generalizing g h with
  | nil => exact hp
  | cons m moves ih => exact ih (hp.move m)

theorem Peer.runFor (fuel : Nat) (lines : Lines) :
    (Game.runFor fuel g lines).Alike (Game.runFor fuel h lines) := by
  induction fuel generalizing g h lines with
  | zero => exact ⟨hp.twin.done.alike, rfl, rfl⟩
  | succ fuel ih =>
    have ht := hp.tick lines
    have hnext : (g.tick lines).outcome.game.Peer (h.tick lines).outcome.game :=
      hp.move (.tick lines)
    simp only [Game.runFor, ← ht.alive]
    cases (g.tick lines).alive with
    | false => exact ht
    | true =>
      simp only [if_true, Turn.andThen, ← ht.outcome.fault]
      cases hfault : (g.tick lines).outcome.fault with
      | some fault => exact ht
      | none =>
        have hrest := ih hnext (g.tick lines).unread
        simp only [← ht.unread]
        refine ⟨⟨hrest.outcome.game, ?_, hrest.outcome.fault⟩, hrest.unread, hrest.alive⟩
        exact (List.filter_append ..).trans
          ((congrArg₂ _ ht.outcome.seen hrest.outcome.seen).trans (List.filter_append ..).symm)

theorem Peer.turnBound (lines : Lines) : g.turnBound lines = h.turnBound lines := by
  obtain ⟨w, v, hw, hv, hwv⟩ := hp.again
  simp only [turnBound_eq, startLength, hw, hv, hwv.scene, hp.twin.session]

theorem Peer.run (lines : Lines) : (g.run lines).Alike (h.run lines) := by
  rw [run_eq_closed, run_eq_closed, hp.turnBound]
  exact (hp.runFor (h.turnBound lines) lines).closed

end

theorem ofDocument_peers {document other : Node} {catalogue : Catalogue} {traced : Bool}
    {o p : Outcome} (hr : document.worldRoot.Reordered other.worldRoot)
    (ho : ofDocument document catalogue traced = .ok o)
    (hp : ofDocument other catalogue traced = .ok p) : o.game.Peer p.game := by
  obtain ⟨w, hw, hgame⟩ := ofDocument_ok ho
  obtain ⟨v, hv, hother⟩ := ofDocument_ok hp
  obtain ⟨hchecked, hload⟩ := World.ofDocument_ok.mp hw
  have hwv : w.Alike v :=
    World.reordered_alike hr hchecked hload (World.ofDocument_ok.mp hv).2
  rw [hgame, hother]
  exact ⟨⟨by simp only [hwv.scene], rfl, rfl, hwv.twin⟩,
    w, v, hload, (World.ofDocument_ok.mp hv).2, hwv⟩

/-- The order in which a document declares its items, areas and scenes makes no difference. The same
documents pass the checks and can be loaded, the same is found by every id, and every move and every
session gives back the same. -/
theorem declaration_order_irrelevant {document other : Node}
    (hr : document.worldRoot.Reordered other.worldRoot) :
    (document.worldRoot.complaints = [] ↔ other.worldRoot.complaints = []) ∧
    ((∃ w, World.ofDocument document = .ok w) ↔ ∃ v, World.ofDocument other = .ok v) ∧
    (∀ w v, World.ofDocument document = .ok w → World.ofDocument other = .ok v → w.Alike v) ∧
    ∀ catalogue traced o p, ofDocument document catalogue traced = .ok o →
      ofDocument other catalogue traced = .ok p →
      (∀ moves m, (o.game.after moves).reply m = (p.game.after moves).reply m) ∧
      ∀ lines, (o.game.run lines).reply = (p.game.run lines).reply := by
  refine ⟨hr.complaints_eq_nil, World.ofDocument_isOk_reordered hr, fun w v hw hv => ?_, ?_⟩
  · obtain ⟨hchecked, hload⟩ := World.ofDocument_ok.mp hw
    exact World.reordered_alike hr hchecked hload (World.ofDocument_ok.mp hv).2
  · intro catalogue traced o p ho hp
    have hpeers := ofDocument_peers hr ho hp
    exact ⟨fun moves m => (hpeers.after moves).reply m, fun lines => (hpeers.run lines).reply⟩

def backwards : Node := { Sample.document with children := Sample.document.children.reverse }

theorem declaration_order_irrelevant_sample : ∃ o p,
    ofDocument Sample.document Catalogue.english false = .ok o ∧
    ofDocument backwards Catalogue.english false = .ok p ∧
    Sample.document.worldRoot.Reordered backwards.worldRoot ∧
    o.game.world.areas.keys ≠ p.game.world.areas.keys ∧
    (o.game.after arrival).session.area = some "yard" ∧
    (o.game.after arrival).reply (.execute "look") =
      (p.game.after arrival).reply (.execute "look") ∧
    (o.game.run [some "no", some "take 1"]).reply =
      (p.game.run [some "no", some "take 1"]).reply := by
  have hrun : (ofDocument Sample.document Catalogue.english false).toOption.any (fun o =>
      (o.game.after arrival).session.area == some "yard" &&
        o.game.world.areas.keys == ["yard", "hall", "cellar"]) = true := by decide +kernel
  have hback : (ofDocument backwards Catalogue.english false).toOption.any (fun p =>
      p.game.world.areas.keys == ["cellar", "hall", "yard"]) = true := by decide +kernel
  obtain ⟨o, ho, hrun⟩ := opens_with hrun
  obtain ⟨p, hp, hback⟩ := opens_with hback
  simp only [Bool.and_eq_true, beq_iff_eq] at hrun hback
  have hr : Sample.document.worldRoot.Reordered backwards.worldRoot :=
    ⟨rfl, (List.reverse_perm _).symm⟩
  obtain ⟨hmoves, hsessions⟩ := (declaration_order_irrelevant hr).2.2.2 _ _ o p ho hp
  refine ⟨o, p, ho, hp, hr, ?_, hrun.1, hmoves arrival _, hsessions _⟩
  rw [hrun.2, hback]
  decide

end Game

end Fabula
