import CodeAtlas.Languages
import CodeAtlas.Proofs.Dict
import CodeAtlas.Proofs.Syntax.Python
import CodeAtlas.Proofs.Syntax.Script

set_option autoImplicit false

/-! # Members follow their class

Entities say which class they are members of by its name alone, and what is later made of them looks for an enclosing
class of that name among the entities before them. In every nested tree the walks of all three programming languages
leave one to be found. -/

namespace CodeAtlas.Syntax.Language

variable {l : Language} {cx : Context} {root : Node}

theorem orderly_collect (hl : l ∈ Languages.programming) (hnested : root.isNested = true) :
    Orderly l.kinds [] (l.collect cx root) := by
  simp only [Languages.programming, List.mem_cons, List.not_mem_nil, or_false] at hl
  rcases hl with rfl | rfl | rfl
  · exact Python.orderly_collect cx hnested
  · exact Script.orderly_collect false cx hnested
  · exact Script.orderly_collect true cx hnested

/-- **Members follow their class.** In what is found in a nested tree, every entity that names a class as its own comes
    after a class of that name whose lines enclose its lines; every entity is of a kind that the parser says it
    supports; and the imports that are recorded have names and are distinct. From a tree without errors, exactly these
    entities and imports become the file's. -/
theorem collect_membersFollow (hl : l ∈ Languages.programming) (cx : Context) (hnested : root.isNested = true) :
    (∀ earlier e later, (l.collect cx root).entities = earlier ++ e :: later →
      ∀ name, e.metadata.stringValue? "parentClass" = some name →
        ∃ k ∈ earlier, k.kind = .classDecl ∧ k.name = name ∧ k.startLine ≤ e.startLine ∧ e.endLine ≤ k.endLine) ∧
    (∀ e ∈ (l.collect cx root).entities, e.kind ∈ l.toReader.toParser.supportedKinds) ∧
    (∀ s ∈ distinct (l.collect cx root).imports, s ≠ "") ∧
    (distinct (l.collect cx root).imports).Nodup ∧
    (root.hasError = false → ∃ x, l.extractTree cx.path cx.source root = .ok x ∧
      x.entities = (l.collect cx root).entities ∧
      x.fileMetadata = [("imports", .list (distinct (l.collect cx root).imports))]) := by
  have horderly : Orderly l.kinds [] (l.collect cx root) := orderly_collect hl hnested
  refine ⟨fun earlier e later hsplit name hname => ?_, fun e he => ?_, fun s hs => ?_, Dict.nodup_distinct _,
    fun herror => ?_⟩
  · obtain ⟨k, hk, haround⟩ := horderly.members earlier e later hsplit name hname
    exact ⟨k, by simpa using hk, haround.kind, haround.name, haround.startLine, haround.endLine⟩
  · exact (Dict.mem_distinct ..).2 (List.mem_cons_of_mem _ (horderly.kinds e he))
  · exact horderly.imports s ((Dict.mem_distinct ..).1 hs)
  · rw [extractTree, if_neg (by simp [herror])]
    exact ⟨_, rfl, rfl, rfl⟩

/-- A class inside a class, with a decorated method. -/
def shapes : Source :=
  .ofString "import math\nclass Shape:\n  class Square:\n    @cached\n    def area(self): pass\n"

/-- Its tree, as the grammar reads it. -/
def shapesTree : Node := Languages.python.grammar "/a.py" shapes

theorem collect_shapes_membersFollow :
    Languages.python ∈ Languages.programming ∧ shapesTree.isNested = true ∧
    (Languages.python.collect ⟨"a.py", shapes⟩ shapesTree).entities.map
        (fun e => (e.id, e.metadata.stringValue? "parentClass"))
      = [("import:a.py:math:1", none), ("class:a.py:Shape:2", none), ("class:a.py:Square:3", some "Shape"),
          ("method:a.py:area:5", some "Square")] ∧
    ∀ earlier e later, (Languages.python.collect ⟨"a.py", shapes⟩ shapesTree).entities = earlier ++ e :: later →
      ∀ name, e.metadata.stringValue? "parentClass" = some name →
        ∃ k ∈ earlier, k.kind = .classDecl ∧ k.name = name ∧ k.startLine ≤ e.startLine ∧ e.endLine ≤ k.endLine := by
  have hpython : Languages.python ∈ Languages.programming := List.mem_cons_self ..
  have hrun : shapesTree.isNested = true ∧
      (Languages.python.collect ⟨"a.py", shapes⟩ shapesTree).entities.map
          (fun e => (e.id, e.metadata.stringValue? "parentClass"))
        = [("import:a.py:math:1", none), ("class:a.py:Shape:2", none), ("class:a.py:Square:3", some "Shape"),
            ("method:a.py:area:5", some "Square")] := by decide +kernel
  exact ⟨hpython, hrun.1, hrun.2, (collect_membersFollow hpython _ hrun.1).1⟩

end CodeAtlas.Syntax.Language
