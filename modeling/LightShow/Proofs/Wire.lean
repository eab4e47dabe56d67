import LightShow.Proofs.InnerKinds
import LightShow.Proofs.PortNames
import LightShow.Proofs.Readable
import LightShow.Proofs.Rereading

/-!
Deployed files read back. The links that the engine finds in a file are those that were bound
exactly if no id in them is empty or holds a colon, which nothing but the authored ids decides.
-/

namespace LightShow

open OrderedMap Outcome InnerName

/-- Every link is on a declared input and leads to an output of the same type in its scene. -/
def Show.Closed (d : Show) : Prop :=
  ∀ s ∈ d.scenes, ∀ f ∈ s.filters, f.WellLinked s.filters

theorem OutputRef.eq_of_text_eq {r r' : OutputRef} (same : r.text = r'.text)
    (plain : PlainName r.port) (plain' : PlainName r'.port) : r = r' := by
  have shape : ∀ r : OutputRef, r.text.toList.reverse =
      r.port.toList.reverse ++ ':' :: r.filter.toList.reverse := by
    intro r
    simp [text]
  have cut := Text.cut?_append (b := r.filter.toList.reverse)
    (fun colon => plain.2 (List.mem_reverse.mp colon))
  have cut' := Text.cut?_append (b := r'.filter.toList.reverse)
    (fun colon => plain'.2 (List.mem_reverse.mp colon))
  rw [← shape, same, shape, cut'] at cut
  obtain ⟨ports, filters⟩ := Prod.mk.inj (Option.some.inj cut)
  have port : r'.port = r.port := String.toList_inj.mp (List.reverse_injective ports)
  have filter : r'.filter = r.filter := String.toList_inj.mp (List.reverse_injective filters)
  cases r
  cases r'
  simp only at port filter
  rw [port, filter]

theorem roleKind_ne_universeOutput (role : String) : roleKind role ≠ .universeOutput := by
  unfold roleKind
  split <;> decide

theorem plain_child {id role : String} {c : Composite} (plain : PlainName id)
    (held : role ∈ c.roles) : PlainName (child id role) := by
  have roles : ∀ role ∈ c.roles, ':' ∉ role.toList := by cases c <;> decide
  constructor
  · intro empty
    have longer := length_child id role
    rw [empty] at longer
    exact Nat.not_lt_zero _ longer
  · rw [toList_child, List.mem_append, List.mem_cons, List.mem_cons]
    rintro (colon | colon | colon | colon)
    · exact plain.2 colon
    · exact absurd colon (by decide)
    · exact absurd colon (by decide)
    · exact roles role held colon

namespace RecipeBook

theorem plain_of_metIn {budget : Nat} {n : Node} (follows : n.FollowsKind)
    (plain : PlainName n.id) {g : Filter} (met : g ∈ builtIn.metIn budget n) :
    PlainName g.id := by
  induction budget generalizing n with
  | zero =>
    cases n with
    | concrete f =>
      obtain rfl := List.mem_singleton.mp met
      exact plain
    | composite f => cases met
  | succ budget ih =>
    cases n with
    | concrete f =>
      obtain rfl := List.mem_singleton.mp met
      exact plain
    | composite f =>
      rcases List.mem_cons.mp met with rfl | within
      · exact plain
      obtain ⟨m, member, met⟩ := List.mem_flatMap.mp within
      have composite : f.kind.isComposite = true := follows.symm
      obtain ⟨c, kind⟩ := exists_composite_of_isComposite composite
      obtain ⟨role, held, id, -⟩ := exists_role kind member
      refine ih (followsKind_of_inner faithful_builtIn composite member) ?_ met
      rw [id]
      exact plain_child plain held

end RecipeBook

section

variable {book : RecipeBook} {settings : Settings} {s : Scene} {fs : List Filter}

theorem exists_met_of_deployed (deployed : (deployScene book settings s).outcome = .ok fs)
    {f : Filter} (emitted : f ∈ fs) :
    ∃ g, (∃ n ∈ s.nodes, g ∈ book.metIn settings.maxExpansionDepth n) ∧
      f.id = g.id ∧ f.kind = g.kind ∧ f.configuration = g.configuration := by
  obtain ⟨kept, folding, deploys⟩ := deployScene_eq_ok_iff.mp deployed
  obtain ⟨k, isKept, finished⟩ := exists_left deploys.finished emitted
  obtain ⟨links, parameters, -, -, rfl⟩ := finish_eq_ok_iff.mp finished
  have listed := deploys.retains.sublist.subset (List.mem_map_of_mem isKept)
  obtain ⟨n, member, inside⟩ := List.mem_flatMap.mp listed
  exact ⟨k.1, ⟨n, member, (book.metIn_perm _ n).mem_iff.mpr (List.mem_append_right _ inside)⟩,
    rfl, rfl, rfl⟩

theorem executable_of_deployed (deployed : (deployScene book settings s).outcome = .ok fs) :
    Executable fs := by
  obtain ⟨kept, folding, deploys⟩ := deployScene_eq_ok_iff.mp deployed
  exact deploys.executable

end

namespace ShowFile

section

variable {settings : Settings} {d : Show} {c : CompiledShow}

theorem nameable_of_compile (readable : ReadableShow d)
    (compiled : (compile .builtIn settings .deployment d).outcome = .ok c) : Nameable c where
  scenes := by
    obtain ⟨distinct, -, -, each⟩ := compile_eq_ok_iff.mp compiled
    have ids : d.scenes.map Scene.id = c.scenes.map fun t => t.scene.id := by
      refine map_eq_map each fun s t compiled => ?_
      rw [(compileScene_deployment_eq_ok_iff.mp compiled).1]
    rwa [← ids]
  filters := by
    intro t member
    exact (executable_of_deployed (deployed_of_compile compiled member).2).distinct
  unexchanged := by
    intro t member f emitted kind
    obtain ⟨listed, deployed⟩ := deployed_of_compile compiled member
    obtain ⟨g, ⟨n, authored, met⟩, -, kind', configuration⟩ :=
      exists_met_of_deployed deployed emitted
    have scene := readable.scenes t.scene listed
    have follows := scene.valid.followsKind n authored
    rw [configuration]
    rw [kind'] at kind
    rcases RecipeBook.eq_or_exists_inner RecipeBook.faithful_builtIn follows met with
      rfl | ⟨u, parent, made⟩
    · exact (scene.legible n authored).unexchanged kind
    · obtain ⟨c, composite⟩ := exists_composite_of_isComposite
        (RecipeBook.isComposite_of_mem_compositesIn RecipeBook.faithful_builtIn follows parent)
      obtain ⟨role, -, -, ofRole⟩ := RecipeBook.exists_role composite made
      rw [Node.kind, Node.filter_ofFilter, kind] at ofRole
      exact absurd ofRole.symm (roleKind_ne_universeOutput role)

theorem filters_carriedScene (presents : Bool) (t : CompiledScene) :
    (carriedScene presents t).filters = t.filters.map (carriedFilter presents) := by
  rw [Scene.filters, carriedScene, List.map_map]
  exact List.map_congr_left fun f _ => Node.filter_ofFilter _

theorem ports_carriedFilter (presents : Bool) (f : Filter) :
    (carriedFilter presents f).ports = f.ports := by
  cases presents <;> rfl

theorem links_carriedFilter (presents : Bool) (f : Filter) :
    (carriedFilter presents f).links = f.links := by
  cases presents <;> rfl

theorem wellLinked_carried (presents : Bool) {fs : List Filter} {f : Filter}
    (linked : f.WellLinked fs) :
    (carriedFilter presents f).WellLinked (fs.map (carriedFilter presents)) := by
  intro link held
  rw [links_carriedFilter] at held
  obtain ⟨type, ⟨ports, told, accepted⟩, g, emitted, source, ports', told', provided⟩ :=
    linked link held
  exact ⟨type, ⟨ports, (ports_carriedFilter presents f).trans told, accepted⟩,
    carriedFilter presents g, List.mem_map_of_mem emitted,
    (id_carriedFilter presents g).trans source, ports',
    (ports_carriedFilter presents g).trans told', provided⟩

theorem closed_of_wellformed (readable : ReadableShow d)
    (compiled : (compile .builtIn settings .deployment d).outcome = .ok c)
    (wellformed : ∀ t ∈ c.scenes, ∀ f ∈ t.filters, ∀ link ∈ f.links.entries,
      link.2.Wellformed) :
    ∃ d', (read (text settings c)).outcome = .ok d' ∧ d'.Closed := by
  have nameable := nameable_of_compile readable compiled
  have writable : Writable c := ⟨nameable.toIdentified, fun t member f emitted =>
    ⟨wellformed t member f emitted, nameable.unexchanged t member f emitted⟩⟩
  refine ⟨carried c, read_text settings writable, ?_⟩
  intro s' listed f' held
  obtain ⟨t, member, rfl⟩ := List.mem_map.mp listed
  rw [filters_carriedScene] at held ⊢
  obtain ⟨f, emitted, rfl⟩ := List.mem_map.mp held
  have executable := executable_of_deployed (deployed_of_compile compiled member).2
  exact wellLinked_carried _ (executable.linked f emitted)

theorem wellformed_of_closed (readable : ReadableShow d)
    (compiled : (compile .builtIn settings .deployment d).outcome = .ok c) {d' : Show}
    (reread : (read (text settings c)).outcome = .ok d') (closed : d'.Closed)
    {t : CompiledScene} (member : t ∈ c.scenes) {f : Filter} (emitted : f ∈ t.filters)
    {link : String × OutputRef} (linked : link ∈ f.links.entries) : link.2.Wellformed := by
  have nameable := nameable_of_compile readable compiled
  have tell := ((read_text_eq_ok_iff settings nameable.toIdentified).mp reread).1
  have told := read_text_of_tells settings nameable tell
  obtain rfl := Except.ok.inj (reread.symm.trans told)
  have found := OutputRef.wellformed_reread (tell t member f emitted link linked)
  have executable := executable_of_deployed (deployed_of_compile compiled member).2
  obtain ⟨type, -, g, -, -, bound⟩ := executable.linked f emitted link linked
  have scene : carriedScene c.mode.presents t.reread ∈ (carried c.reread).scenes :=
    List.mem_map_of_mem (List.mem_map_of_mem member)
  have filter : carriedFilter c.mode.presents f.reread ∈
      (carriedScene c.mode.presents t.reread).filters := by
    rw [filters_carriedScene]
    exact List.mem_map_of_mem (List.mem_map_of_mem emitted)
  have stands : (link.1, link.2.reread) ∈
      (carriedFilter c.mode.presents f.reread).links.entries := by
    rw [links_carriedFilter, Filter.links_reread]
    exact List.mem_map_of_mem (f := fun l : String × OutputRef => (l.1, l.2.reread)) linked
  obtain ⟨type', -, g', -, -, rebound⟩ := closed _ scene _ filter _ stands
  have same := OutputRef.eq_of_text_eq found.2 rebound.plain bound.plain
  rw [← same]
  exact found.1

theorem wellformed_of_plain (readable : ReadableShow d)
    (compiled : (compile .builtIn settings .deployment d).outcome = .ok c)
    (plain : ∀ s ∈ d.scenes, ∀ n ∈ s.nodes, PlainName n.id) :
    ∀ t ∈ c.scenes, ∀ f ∈ t.filters, ∀ link ∈ f.links.entries, link.2.Wellformed := by
  intro t member f emitted link linked
  obtain ⟨listed, deployed⟩ := deployed_of_compile compiled member
  obtain ⟨type, -, source, among, id, provides⟩ :=
    (executable_of_deployed deployed).linked f emitted link linked
  obtain ⟨g, ⟨n, authored, met⟩, same, -⟩ := exists_met_of_deployed deployed among
  have follows := (readable.scenes t.scene listed).valid.followsKind n authored
  have named : PlainName link.2.filter := by
    rw [← id, same]
    exact RecipeBook.plain_of_metIn follows (plain t.scene listed n authored) met
  exact ⟨named.1, provides.plain.1, named.2⟩

end

/-- The links in a deployed file are those that were bound exactly if each of their references
    can be told from its text, as is the case where no authored id is empty or holds a colon. -/
theorem deployed_file_closed_iff (settings : Settings) {file : String} {d : Show}
    {c : CompiledShow} (accepted : (read file).outcome = .ok d)
    (compiled : (compile .builtIn settings .deployment d).outcome = .ok c) :
    ((∃ written d', (write settings c).outcome = .ok written ∧
        (read written).outcome = .ok d' ∧ d'.Closed) ↔
      ∀ t ∈ c.scenes, ∀ f ∈ t.filters, ∀ link ∈ f.links.entries, link.2.Wellformed) ∧
    ((∀ s ∈ d.scenes, ∀ n ∈ s.nodes, PlainName n.id) →
      ∃ written d', (write settings c).outcome = .ok written ∧
        (read written).outcome = .ok d' ∧ d'.Closed) := by
  have readable := readable_of_read accepted
  have forward : (∀ t ∈ c.scenes, ∀ f ∈ t.filters, ∀ link ∈ f.links.entries,
      link.2.Wellformed) → ∃ written d', (write settings c).outcome = .ok written ∧
        (read written).outcome = .ok d' ∧ d'.Closed := by
    intro wellformed
    obtain ⟨d', reread, closed⟩ := closed_of_wellformed readable compiled wellformed
    exact ⟨text settings c, d', rfl, reread, closed⟩
  refine ⟨⟨?_, forward⟩, fun plain => forward (wellformed_of_plain readable compiled plain)⟩
  rintro ⟨written, d', wrote, reread, closed⟩
  obtain rfl : text settings c = written := Except.ok.inj wrote
  intro t member f emitted link linked
  exact wellformed_of_closed readable compiled reread closed member emitted linked

/-- A file with a dimmed color that has a colon in its id. -/
def colonFile : String :=
  "<showfile><scene id='1'><filter id='a:b' type='VFILTER_DIMMED_COLOR'/></scene></showfile>"

def plainFile : String :=
  "<showfile><scene id='1'><filter id='w' type='VFILTER_DIMMED_COLOR'/></scene></showfile>"

def dimmedScene (id : String) : Scene where
  id := 1
  name := ""
  nodes := [.composite { id, kind := .composite .dimmedColor }]

def dimmedShow (id : String) : Show where
  name := ""
  scenes := [dimmedScene id]

def dimmedCompiled (id : String) : CompiledShow where
  mode := .deployment
  document := dimmedShow id
  scenes := [{
    scene := dimmedScene id
    filters := [
      { id := id ++ "__main", kind := .mainBrightness },
      { id := id ++ "__mix", kind := .conversion .dimColor,
        links := .ofList [("brightness", ⟨id ++ "__main", "value"⟩)] }] }]

theorem colon_file_not_closed :
    (read colonFile).outcome = .ok (dimmedShow "a:b") ∧
      (compile .builtIn {} .deployment (dimmedShow "a:b")).outcome =
        .ok (dimmedCompiled "a:b") ∧
      ¬ ∃ written d', (write {} (dimmedCompiled "a:b")).outcome = .ok written ∧
        (read written).outcome = .ok d' ∧ d'.Closed := by
  have accepted : (read colonFile).outcome = .ok (dimmedShow "a:b") := by cbv
  have compiled : (compile .builtIn {} .deployment (dimmedShow "a:b")).outcome =
      .ok (dimmedCompiled "a:b") := by
    cbv
  refine ⟨accepted, compiled, ?_⟩
  rintro ⟨written, d', wrote, reread, closed⟩
  obtain rfl : text {} (dimmedCompiled "a:b") = written := Except.ok.inj wrote
  have wellformed := wellformed_of_closed (readable_of_read accepted) compiled reread closed
    (.head _) (.tail _ (.head _)) (.head _)
  exact absurd wellformed (by decide)

theorem deployed_file_closed_iff_plain_file :
    (read plainFile).outcome = .ok (dimmedShow "w") ∧
      (compile .builtIn {} .deployment (dimmedShow "w")).outcome = .ok (dimmedCompiled "w") ∧
      (∀ s ∈ (dimmedShow "w").scenes, ∀ n ∈ s.nodes, PlainName n.id) ∧
      ∃ written d', (write {} (dimmedCompiled "w")).outcome = .ok written ∧
        (read written).outcome = .ok d' ∧ d'.Closed := by
  have accepted : (read plainFile).outcome = .ok (dimmedShow "w") := by cbv
  have compiled : (compile .builtIn {} .deployment (dimmedShow "w")).outcome =
      .ok (dimmedCompiled "w") := by
    cbv
  have plain : ∀ s ∈ (dimmedShow "w").scenes, ∀ n ∈ s.nodes, PlainName n.id := by decide
  exact ⟨accepted, compiled, plain, (deployed_file_closed_iff {} accepted compiled).2 plain⟩

end ShowFile

end LightShow
