import LogHarvest.Proofs.FileTree.Listing
import LogHarvest.Proofs.FileTree.Path

/-!
# Pruning with globs that end in a star

A walk does not enter a directory that an exclude glob matches with a slash at its end. If the glob
ends in a star, it matches the path of everything below that directory as well, so the files that
pruning leaves out would be left out one by one. The exclude globs that always hold are of this
kind.
-/

namespace LogHarvest

open WalkRule (globMatches anyMatches builtinExclude)

namespace WalkRule

/-- Globs of which each ends in a star. -/
def EndInStar (globs : List Text) : Prop := ∀ glob ∈ globs, glob.getLast? = some ('*' : Code)

instance : DecidablePred EndInStar := fun globs =>
  inferInstanceAs (Decidable (∀ glob ∈ globs, glob.getLast? = some ('*' : Code)))

theorem endInStar_builtinExclude : EndInStar builtinExclude := by decide

theorem globMatches_append {glob path : Text} (hglob : glob.getLast? = some ('*' : Code))
    (more : Text) (h : globMatches path glob = true) : globMatches (path ++ more) glob = true := by
  have hlonger := Glob.keepsLonger_read hglob
  rw [globMatches, Bool.or_eq_true] at h ⊢
  exact h.imp (hlonger path more) (hlonger (('/' : Code) :: path) more)

variable {rule : WalkRule} {dir below : List Text}

theorem exists_matches_of_not_entersDir
    (h : rule.entersDir (Path.ofParts dir) = false) :
    ∃ glob ∈ rule.excluded, globMatches (Path.ofParts dir ++ [('/' : Code)]) glob = true := by
  simpa [entersDir, anyMatches] using h

/-- Whatever is below a directory that is not entered is excluded itself. -/
theorem exists_matches_below (hstars : EndInStar rule.excluded) (hdir : dir ≠ [])
    (hbelow : below ≠ []) (h : rule.entersDir (Path.ofParts dir) = false) :
    ∃ glob ∈ rule.excluded, globMatches (Path.ofParts (dir ++ below)) glob = true := by
  obtain ⟨glob, hglob, hmatches⟩ := exists_matches_of_not_entersDir h
  refine ⟨glob, hglob, ?_⟩
  rw [Path.ofParts_append hdir hbelow]
  exact globMatches_append (hstars glob hglob) _ hmatches

/-- Pruning leaves out nothing that is not excluded anyway. -/
theorem keeps_iff_listsFile (hstars : EndInStar rule.excluded) {path : List Text} :
    rule.Keeps path ↔ rule.listsFile (Path.ofParts path) = true := by
  rw [keeps_iff, and_iff_left_iff_imp, reaches_iff]
  rintro hlists dir below hdir hbelow rfl
  by_contra henters
  obtain ⟨glob, hglob, hmatches⟩ :=
    exists_matches_below hstars hdir hbelow (Bool.eq_false_iff.2 henters)
  have hexcluded : anyMatches (Path.ofParts (dir ++ below)) rule.excluded = true :=
    List.any_eq_true.2 ⟨glob, hglob, hmatches⟩
  simp [listsFile, hexcluded] at hlists

end WalkRule

namespace FileTree

/-- If all exclude globs that are given end in a star, then everything below a directory that is not
entered is excluded by its own path, and a walk lists the files below its start that some include
glob and no exclude glob matches, whatever their directories are called. -/
theorem walk_eq_filter_of_endInStar {tree : FileTree} (hdistinct : tree.top.Distinct)
    (included : List Text) {excluded : List Text} (hstars : WalkRule.EndInStar excluded)
    (start : Text) :
    (∀ dir below : List Text, dir ≠ [] → below ≠ [] →
      (WalkRule.of included excluded).entersDir (Path.ofParts dir) = false →
      ∃ glob ∈ excluded ++ builtinExclude,
        globMatches (Path.ofParts (dir ++ below)) glob = true) ∧
    (∀ listing, tree.IsListing start listing →
      tree.walk (.of included excluded) start = listing.filter fun path =>
        (WalkRule.of included excluded).listsFile (Path.ofParts path)) ∧
    ∀ path, path ∈ tree.walk (.of included excluded) start ↔
      tree.HasFile start path ∧
      (∃ glob ∈ if included.isEmpty then WalkRule.defaultInclude else included,
        globMatches (Path.ofParts path) glob = true) ∧
      ∀ glob ∈ excluded ++ builtinExclude, globMatches (Path.ofParts path) glob = false := by
  have hall : WalkRule.EndInStar (WalkRule.of included excluded).excluded :=
    List.forall_mem_append.2 ⟨hstars, WalkRule.endInStar_builtinExclude⟩
  refine ⟨fun dir below hdir hbelow h => WalkRule.exists_matches_below hall hdir hbelow h,
    fun listing h => ?_, fun path => ?_⟩
  · rw [h.walk_eq_filter hdistinct]
    simp only [WalkRule.keeps_iff_listsFile hall, Bool.decide_eq_true]
  · rw [mem_walk hdistinct, WalkRule.keeps_iff_listsFile hall, WalkRule.listsFile_iff]
    rfl

/-- A source beside a directory whose name holds a bracket. -/
def besideBracket : FileNode :=
  .dir [
    (Text.ofString "g[1", .dir [(Text.ofString "d", .dir [(Text.ofString "G.java", .file [])])]),
    (Text.ofString "A.java", .file [])]

theorem distinct_besideBracket : besideBracket.Distinct := by decide

/-- The bracket before the star of the glob is never closed, and the directory is not entered. -/
theorem walk_eq_filter_of_endInStar_bracket :
    besideBracket.Distinct ∧ WalkRule.EndInStar [Text.ofString "g[*"] ∧
    (WalkRule.of [] [Text.ofString "g[*"]).entersDir (Text.ofString "g[1") = false ∧
    (∃ glob ∈ Text.ofString "g[*" :: builtinExclude,
      globMatches (Text.ofString "g[1/d/G.java") glob = true) ∧
    [Text.ofString "g[1", Text.ofString "d", Text.ofString "G.java"] ∉
      (FileTree.mk besideBracket [] []).walk (.of [] [Text.ofString "g[*"]) [] := by
  have hstars : WalkRule.EndInStar [Text.ofString "g[*"] := by decide
  have henters :
      (WalkRule.of [] [Text.ofString "g[*"]).entersDir (Text.ofString "g[1") = false := by decide
  have hdistinct : (FileTree.mk besideBracket [] []).top.Distinct := distinct_besideBracket
  obtain ⟨hbelow, -, hmem⟩ := walk_eq_filter_of_endInStar hdistinct [] hstars []
  obtain ⟨glob, hglob, hmatches⟩ :=
    hbelow [Text.ofString "g[1"] [Text.ofString "d", Text.ofString "G.java"] (by simp) (by simp)
      henters
  refine ⟨distinct_besideBracket, hstars, henters, ⟨glob, hglob, hmatches⟩, fun hlisted => ?_⟩
  exact Bool.false_ne_true ((((hmem _).1 hlisted).2.2 glob hglob).symm.trans hmatches)

end FileTree

end LogHarvest
