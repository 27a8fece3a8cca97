import FlowConsole.Proofs.Outcome
import FlowConsole.Proofs.Text.Characters
import FlowConsole.Url.Reading
import Mathlib.Data.List.TakeWhile
import Mathlib.Tactic.SplitIfs

/-!
# Addresses with a path after them

The address of a store is followed by the path of a query. What can be read as an address can be
read with a path after it, in place of the slashes at its end (`IsBase.exists_read`): the scheme and
the host end before the path. Two things keep an address from being a base: blanks at its end, which
are ignored there only, and a lone sign after which neither user nor host is named.
-/

namespace FlowConsole.Url

/-! ### Authorities -/

/-- What stands before the first slash. -/
private def authorityOf (kind : SchemeKind) (cs : List Char) : List Char :=
  cs.takeWhile (!isSlash kind ·)

/-- What stands from the first slash on. -/
private def pathOf (kind : SchemeKind) (cs : List Char) : List Char :=
  cs.dropWhile (!isSlash kind ·)

/-- The user of an authority, and the host with its port. -/
private def userAndHost (authority : List Char) : List Char × List Char :=
  (cutLast? '@' authority).getD ([], authority)

/-- The host of an authority, and its port. -/
private def hostAndPort (authority : List Char) : List Char × List Char :=
  scanHost false (userAndHost authority).2

/-- The host is missing where there has to be one. -/
private def lacksHost (kind : SchemeKind) (authority path : List Char) : Bool :=
  (hostAndPort authority).1.isEmpty &&
    (kind.isSpecial || !(hostAndPort authority).2.isEmpty ||
      !(readUserInfo (userAndHost authority).1).isEmpty ||
      ((userAndHost authority).1.isEmpty && authority.head? == some '@' && !path.isEmpty))

private theorem exists_readAuthority_iff {kind : SchemeKind} {cs : List Char} :
    (∃ r, readAuthority kind true cs = .ok r) ↔
      lacksHost kind (authorityOf kind cs) (pathOf kind cs) = false ∧
        (∃ host, readHost kind (hostAndPort (authorityOf kind cs)).1 = .ok host) ∧
        ∃ port, readPort kind (hostAndPort (authorityOf kind cs)).2 = .ok port := by
  have hread : readAuthority kind true cs =
      if lacksHost kind (authorityOf kind cs) (pathOf kind cs) then .error .emptyHost
      else readHost kind (hostAndPort (authorityOf kind cs)).1 >>= fun host =>
        readPort kind (hostAndPort (authorityOf kind cs)).2 >>= fun port =>
          .ok (⟨readUserInfo (userAndHost (authorityOf kind cs)).1, host, port.1⟩,
            port.2 ++ pathOf kind cs) := by
    rw [readAuthority]
    rfl
  rw [hread]
  constructor
  · rintro ⟨r, h⟩
    split_ifs at h with hlacks
    obtain ⟨host, hhost, h⟩ := Outcome.bind_eq_ok.mp h
    obtain ⟨port, hport, -⟩ := Outcome.bind_eq_ok.mp h
    exact ⟨Bool.eq_false_iff.mpr hlacks, ⟨host, hhost⟩, ⟨port, hport⟩⟩
  · rintro ⟨hlacks, ⟨host, hhost⟩, ⟨port, hport⟩⟩
    rw [hlacks, hhost]
    exact ⟨_, Outcome.bind_eq_ok.mpr ⟨host, rfl, Outcome.bind_eq_ok.mpr ⟨port, hport, rfl⟩⟩⟩

private theorem append_scanHost (inBrackets : Bool) (cs : List Char) :
    (scanHost inBrackets cs).1 ++ (scanHost inBrackets cs).2 = cs := by
  induction cs generalizing inBrackets with
  | nil => rfl
  | cons c cs ih =>
    rw [scanHost]
    split
    · rfl
    · exact congrArg (c :: ·) (ih _)

private theorem eq_of_userAndHost {authority : List Char} (h : '@' ∈ authority) :
    authority = (userAndHost authority).1 ++ '@' :: (userAndHost authority).2 := by
  obtain ⟨after, before, hreverse, hafter⟩ :=
    List.eq_append_cons_of_mem (List.mem_reverse.mpr h)
  rw [userAndHost, cutLast?, hreverse, Text.cut?_append hafter, ← List.reverse_inj, hreverse]
  simp

-- A path does not take a host away, unless there is nothing but a sign.
private theorem lacksHost_of_path {kind : SchemeKind} {authority path : List Char}
    (h : lacksHost kind authority path = false)
    (hsign : authority = ['@'] → path = [] → kind.isSpecial = true) (path' : List Char) :
    lacksHost kind authority path' = false := by
  by_contra hlacks
  simp only [lacksHost, Bool.not_eq_false, Bool.and_eq_true, Bool.or_eq_true, Bool.not_eq_true',
    List.isEmpty_iff, beq_iff_eq] at hlacks
  obtain ⟨hhost, hlacks⟩ := hlacks
  simp only [lacksHost, hhost, List.isEmpty_nil, Bool.true_and, Bool.or_eq_false_iff,
    Bool.not_eq_false'] at h
  obtain ⟨⟨⟨hspecial, hport⟩, huser⟩, hlone⟩ := h
  rcases hlacks with ((hspecial' | hport') | huser') | ⟨⟨hnone, hhead⟩, -⟩
  · rw [hspecial] at hspecial'
    cases hspecial'
  · rw [hport] at hport'
    cases hport'
  · rw [huser] at huser'
    cases huser'
  · -- neither user nor host nor port: all that is left is the sign
    have hmem : '@' ∈ authority := List.mem_of_head? hhead
    have hrest : (userAndHost authority).2 = [] := by
      rw [← append_scanHost false (userAndHost authority).2]
      exact List.append_eq_nil_iff.mpr ⟨hhost, List.isEmpty_iff.mp hport⟩
    have hauthority : authority = ['@'] := by
      rw [eq_of_userAndHost hmem, hnone, hrest]
      rfl
    rw [hnone, hhead] at hlone
    have hpath : path = [] := by simpa using hlone
    rw [hspecial] at hsign
    exact Bool.false_ne_true (hsign hauthority hpath)

private theorem authorityOf_append (kind : SchemeKind) (cs : List Char) {ds : List Char}
    (hds : ∀ c, ds.head? = some c → c = '/') :
    authorityOf kind (cs ++ ds) = authorityOf kind cs ∧
      pathOf kind (cs ++ ds) = pathOf kind cs ++ ds := by
  induction cs with
  | nil =>
    cases ds with
    | nil => exact ⟨rfl, rfl⟩
    | cons d ds =>
      have hslash : isSlash kind d = true := by
        rw [hds d rfl]
        rfl
      simp [authorityOf, pathOf, hslash]
  | cons c cs ih =>
    simp only [authorityOf, pathOf] at ih
    simp only [authorityOf, pathOf, List.cons_append, List.takeWhile_cons, List.dropWhile_cons]
    split
    · exact ⟨congrArg (c :: ·) ih.1, ih.2⟩
    · exact ⟨rfl, rfl⟩

private theorem exists_readAuthority_path {kind : SchemeKind} {cs slashes path : List Char}
    (hslashes : ∀ c ∈ slashes, c = '/') (hpath : ∀ c, path.head? = some c → c = '/')
    (hsign : cs ++ slashes = ['@'] → kind.isSpecial = true)
    (h : ∃ r, readAuthority kind true (cs ++ slashes) = .ok r) :
    ∃ r, readAuthority kind true (cs ++ path) = .ok r := by
  have hslashes' : ∀ c, slashes.head? = some c → c = '/' := fun c hc =>
    hslashes c (List.mem_of_head? hc)
  obtain ⟨hauthority, hrest⟩ := authorityOf_append kind cs hslashes'
  obtain ⟨hauthority', hrest'⟩ := authorityOf_append kind cs hpath
  rw [exists_readAuthority_iff, hauthority, hrest] at h
  rw [exists_readAuthority_iff, hauthority', hrest']
  refine ⟨lacksHost_of_path h.1 (fun hone hnone => hsign ?_) _, h.2⟩
  rw [← List.takeWhile_append_dropWhile (p := (!isSlash kind ·)) (l := cs), List.append_assoc]
  exact (congrArg₂ (· ++ ·) hone hnone).trans rfl

/-! ### Paths -/

/-- A path that is written after an address. Where the slash at its start is one of two that a host
follows, the start of the path is that host. -/
structure IsPath (path : List Char) : Prop where
  start : path.head? = some '/'
  single : path.tail.head?.all fun c => c ≠ '/' && c ≠ '\\'
  signs : ':' ∉ path ∧ '#' ∉ path ∧ '?' ∉ path
  visible : path.all fun c => 0x20 < c.toNat
  fileHost : (readFileBody path.tail).isOk
  host : (readAuthority .other true path.tail).isOk

private theorem IsPath.head_eq {path : List Char} (h : IsPath path) :
    ∀ c, path.head? = some c → c = '/' := fun _ hc =>
  Option.some.inj (hc.symm.trans h.start)

/-! ### What follows a scheme -/

private theorem exists_readBody_web_iff {port : Nat} {cs : List Char} :
    (∃ r, readBody (.web port) true cs = .ok r) ↔
      ∃ r, readAuthority (.web port) true (cs.dropWhile (isSlash (.web port))) = .ok r :=
  Outcome.exists_bind_iff fun _ => ⟨_, rfl⟩

private theorem exists_readBody_file_iff {cs : List Char} :
    (∃ r, readBody .file true cs = .ok r) ↔
      ∀ a b rest, cs = a :: b :: rest → isSlash .file a = true → isSlash .file b = true →
        ∃ r, readFileBody rest = .ok r := by
  match cs with
  | [] | [c] => exact iff_of_true ⟨_, rfl⟩ nofun
  | a :: b :: rest =>
    rw [readBody]
    split
    · next hslashes =>
      rw [Bool.and_eq_true] at hslashes
      constructor
      · rintro h _ _ _ heq - -
        cases heq
        exact h
      · exact fun h => h a b rest rfl hslashes.1 hslashes.2
    · next hslashes =>
      refine iff_of_true ⟨_, rfl⟩ fun _ _ _ heq ha hb => ?_
      cases heq
      exact absurd (Bool.and_eq_true_iff.mpr ⟨ha, hb⟩) hslashes

private theorem exists_readBody_other_iff {cs : List Char} :
    (∃ r, readBody .other true cs = .ok r) ↔
      ∀ rest, cs = '/' :: '/' :: rest → ∃ r, readAuthority .other true rest = .ok r := by
  by_cases hslashes : ∃ rest, cs = '/' :: '/' :: rest
  · obtain ⟨rest, rfl⟩ := hslashes
    rw [readBody, Outcome.exists_bind_iff]
    · constructor
      · rintro h _ heq
        cases heq
        exact h
      · exact fun h => h rest rfl
    · rintro ⟨authority, path⟩
      dsimp only
      split <;> exact ⟨_, rfl⟩
  · refine iff_of_true ?_ fun rest heq => absurd ⟨rest, heq⟩ hslashes
    unfold readBody
    split
    · next hkind => cases hkind
    · next hkind => cases hkind
    · next hkind _ => cases hkind
    · next rest _ => exact absurd ⟨rest, rfl⟩ hslashes
    · exact ⟨_, rfl⟩
    · exact ⟨_, rfl⟩

private theorem exists_readFileBody_iff {cs : List Char} :
    (∃ r, readFileBody cs = .ok r) ↔ isDrive (authorityOf .file cs) = true ∨
      ∃ host, readFileHost (authorityOf .file cs) = .ok host := by
  rw [readFileBody, authorityOf]
  split
  · next hdrive => exact iff_of_true ⟨_, rfl⟩ (.inl hdrive)
  · next hdrive =>
    rw [or_iff_right hdrive]
    exact Outcome.exists_bind_iff fun _ => ⟨_, rfl⟩

section

variable {cs slashes path : List Char}

private theorem exists_readBody_web_path {port : Nat} (hslashes : ∀ c ∈ slashes, c = '/')
    (hpath : ∀ c, path.head? = some c → c = '/')
    (h : ∃ r, readBody (.web port) true (cs ++ slashes) = .ok r) :
    ∃ r, readBody (.web port) true (cs ++ path) = .ok r := by
  rw [exists_readBody_web_iff, List.dropWhile_append] at h ⊢
  split at h
  · -- there is no host after slashes alone
    have hrest : slashes.dropWhile (isSlash (.web port)) = [] := by
      refine List.dropWhile_eq_nil_iff.mpr fun c hc => ?_
      rw [hslashes c hc]
      rfl
    rw [hrest] at h
    obtain ⟨r, h⟩ := h
    cases h
  · next hsome =>
    rw [if_neg hsome]
    exact exists_readAuthority_path hslashes hpath (fun _ => rfl) h

private theorem exists_readBody_file_path (hslashes : ∀ c ∈ slashes, c = '/') (hpath : IsPath path)
    (h : ∃ r, readBody .file true (cs ++ slashes) = .ok r) :
    ∃ r, readBody .file true (cs ++ path) = .ok r := by
  obtain ⟨name, rfl⟩ : ∃ name, path = '/' :: name := List.head?_eq_some_iff.mp hpath.start
  rw [exists_readBody_file_iff] at h ⊢
  intro a b rest heq ha hb
  match cs with
  | [] =>
    cases heq
    exact absurd hb (by simpa [isSlash, SchemeKind.isSpecial] using hpath.single)
  | [c] =>
    cases heq
    exact Outcome.exists_of_isOk hpath.fileHost
  | c :: d :: cs =>
    rw [List.cons_append, List.cons_append] at heq
    cases heq
    have hslashes' : ∀ c, slashes.head? = some c → c = '/' := fun c hc =>
      hslashes c (List.mem_of_head? hc)
    have hhost := h _ _ (cs ++ slashes) rfl ha hb
    rw [exists_readFileBody_iff, (authorityOf_append .file cs hslashes').1] at hhost
    rw [exists_readFileBody_iff, (authorityOf_append .file cs hpath.head_eq).1]
    exact hhost

private theorem exists_readBody_other_path (hslashes : ∀ c ∈ slashes, c = '/') (hpath : IsPath path)
    (hsign : cs ++ slashes ≠ "//@".toList)
    (h : ∃ r, readBody .other true (cs ++ slashes) = .ok r) :
    ∃ r, readBody .other true (cs ++ path) = .ok r := by
  obtain ⟨name, rfl⟩ : ∃ name, path = '/' :: name := List.head?_eq_some_iff.mp hpath.start
  rw [exists_readBody_other_iff] at h ⊢
  intro rest heq
  match cs with
  | [] =>
    cases heq
    exact absurd hpath.single Bool.false_ne_true
  | [c] =>
    cases heq
    exact Outcome.exists_of_isOk hpath.host
  | c :: d :: cs =>
    cases heq
    refine exists_readAuthority_path hslashes hpath.head_eq (fun hlone => ?_)
      (h (cs ++ slashes) rfl)
    exact absurd (congrArg ("//".toList ++ ·) hlone) hsign

private theorem exists_readBody_path {kind : SchemeKind} (hslashes : ∀ c ∈ slashes, c = '/')
    (hpath : IsPath path) (hsign : cs ++ slashes ≠ "//@".toList)
    (h : ∃ r, readBody kind true (cs ++ slashes) = .ok r) :
    ∃ r, readBody kind true (cs ++ path) = .ok r := by
  cases kind with
  | web port => exact exists_readBody_web_path hslashes hpath.head_eq h
  | file => exact exists_readBody_file_path hslashes hpath h
  | other => exact exists_readBody_other_path hslashes hpath hsign h

end

/-! ### Addresses -/

/-- What the authority and the path are read from, in what follows a scheme. -/
private def bodyOf (rest : List Char) : List Char :=
  (Text.cutOrAll '?' (Text.cutOrAll '#' rest).1).1

/-- Neither a query nor a fragment follows. -/
private def isWhole (rest : List Char) : Bool :=
  (Text.cut? '?' (Text.cutOrAll '#' rest).1).isNone && (Text.cut? '#' rest).isNone

private theorem exists_read_iff {cs : List Char} :
    (∃ u, read cs = .ok u) ↔ ∃ scheme rest, readScheme? (cleaned cs) = some (scheme, rest) ∧
      ∃ r, readBody (.of scheme) (isWhole rest) (bodyOf rest) = .ok r := by
  cases hscheme : readScheme? (cleaned cs) with
  | none =>
    have hread : read cs = .error .relative := by
      rw [read, hscheme]
      rfl
    rw [hread]
    exact iff_of_false nofun nofun
  | some p =>
    obtain ⟨scheme, rest⟩ := p
    have hread : (∃ u, read cs = .ok u) ↔
        ∃ r, readBody (.of scheme) (isWhole rest) (bodyOf rest) = .ok r := by
      rw [read, hscheme, isWhole, bodyOf, Text.cutOrAll, Text.cutOrAll]
      cases hhash : Text.cut? '#' rest with
      | none =>
        cases hmark : Text.cut? '?' rest
        all_goals
          simp only [hhash, hmark, Option.getD_none, Option.getD_some]
          exact Outcome.exists_bind_iff fun _ => ⟨_, rfl⟩
      | some p =>
        cases hmark : Text.cut? '?' p.1
        all_goals
          simp only [hhash, hmark, Option.getD_none, Option.getD_some]
          exact Outcome.exists_bind_iff fun _ => ⟨_, rfl⟩
    rw [hread]
    constructor
    · exact fun h => ⟨scheme, rest, rfl, h⟩
    · rintro ⟨_, _, heq, h⟩
      cases heq
      exact h

-- Where no signs are added, a text with a sign keeps its body; one without is all body.
private theorem body_cases (rest : List Char) :
    (∀ ds, '#' ∉ ds → '?' ∉ ds →
      isWhole (rest ++ ds) = true ∧ bodyOf (rest ++ ds) = rest ++ ds) ∨
    ∀ ds, '#' ∉ ds → '?' ∉ ds →
      isWhole (rest ++ ds) = false ∧ bodyOf (rest ++ ds) = bodyOf rest := by
  cases hhash : Text.cut? '#' rest with
  | none =>
    cases hmark : Text.cut? '?' rest with
    | none =>
      refine .inl fun ds hds hds' => ?_
      simp [isWhole, bodyOf, Text.cutOrAll, Text.cut?_append_of_not_mem hds,
        Text.cut?_append_of_not_mem hds', hhash, hmark]
    | some p =>
      refine .inr fun ds hds hds' => ?_
      simp [isWhole, bodyOf, Text.cutOrAll, Text.cut?_append_of_not_mem hds,
        Text.cut?_append_of_not_mem hds', hhash, hmark]
  | some p =>
    refine .inr fun ds hds _ => ?_
    simp [isWhole, bodyOf, Text.cutOrAll, Text.cut?_append_of_not_mem hds, hhash]

private theorem readScheme?_append {ds : List Char} (h : ':' ∉ ds) (cs : List Char) :
    readScheme? (cs ++ ds) = (readScheme? cs).map fun p => (p.1, p.2 ++ ds) := by
  rw [readScheme?, readScheme?, Text.cut?_append_of_not_mem h]
  rcases Text.cut? ':' cs with - | ⟨- | ⟨c, scheme⟩, rest⟩
  · rfl
  · rfl
  · dsimp only [Option.map_some]
    split <;> rfl

/-- A character that is dropped at either end of an address. -/
private def isOuter (c : Char) : Bool := c.toNat ≤ 0x20

private theorem dropWhile_isOuter {cs : List Char} (h : ∀ c, cs.head? = some c → 0x20 < c.toNat) :
    cs.dropWhile isOuter = cs := by
  cases cs with
  | nil => rfl
  | cons c cs =>
    refine List.dropWhile_cons_of_neg ?_
    rw [isOuter, decide_eq_true_iff]
    exact Nat.not_le_of_lt (h c rfl)

private theorem exists_cleaned (cs : List Char) : ∃ kept, ∀ ds, (∀ c ∈ ds, 0x20 < c.toNat) →
    (∀ c, (cs ++ ds).getLast? = some c → 0x20 < c.toNat) → cleaned (cs ++ ds) = kept ++ ds := by
  refine ⟨(cs.dropWhile isOuter).filter fun c => c ≠ '\t' && c ≠ '\n' && c ≠ '\r', ?_⟩
  intro ds hds hlast
  have hfront : (cs ++ ds).dropWhile isOuter = cs.dropWhile isOuter ++ ds := by
    rw [List.dropWhile_append]
    split
    · next hnone =>
      rw [List.isEmpty_iff.mp hnone]
      exact dropWhile_isOuter fun c hc => hds c (List.mem_of_head? hc)
    · rfl
  have hend : Text.dropEndWhile isOuter (cs.dropWhile isOuter ++ ds) =
      cs.dropWhile isOuter ++ ds := by
    rw [Text.dropEndWhile, dropWhile_isOuter, List.reverse_reverse]
    intro c hc
    refine hlast c ?_
    rw [List.head?_reverse, ← hfront] at hc
    rw [← List.takeWhile_append_dropWhile (p := isOuter) (l := cs ++ ds), List.getLast?_append, hc,
      Option.some_or]
  have hvisible : ds.filter (fun c => c ≠ '\t' && c ≠ '\n' && c ≠ '\r') = ds := by
    refine List.filter_eq_self.mpr fun c hc => ?_
    have hne : ∀ d : Char, d.toNat ≤ 0x20 → c ≠ d := by
      rintro d hd rfl
      exact absurd hd (Nat.not_le_of_lt (hds c hc))
    simp [hne]
  calc cleaned (cs ++ ds)
      = (Text.dropEndWhile isOuter ((cs ++ ds).dropWhile isOuter)).filter
          fun c => c ≠ '\t' && c ≠ '\n' && c ≠ '\r' := rfl
    _ = _ := by rw [hfront, hend, List.filter_append, hvisible]

private theorem exists_slashes (base : String) : ∃ slashes, (∀ c ∈ slashes, c = '/') ∧
    base.toList = (Text.withoutTrailingSlashes base).toList ++ slashes := by
  refine ⟨(base.toList.reverse.takeWhile (· == '/')).reverse, fun c hc => ?_, ?_⟩
  · exact eq_of_beq (List.mem_takeWhile_imp (p := (· == '/')) (List.mem_reverse.mp hc))
  · rw [Text.withoutTrailingSlashes, String.toList_ofList, Text.dropEndWhile, ← List.reverse_append,
      List.takeWhile_append_dropWhile, List.reverse_reverse]

/-- An address that a path may follow: it can be read, it does not end in a blank, and it is not a
lone sign where a user and a host are named. -/
structure IsBase (base : String) : Prop where
  readable : (read base.toList).isOk
  last : base.toList.getLast?.all fun c => 0x20 < c.toNat
  named : (readScheme? (cleaned base.toList)).map Prod.snd ≠ some "//@".toList

private theorem exists_kept {base path : String}
    (hlast : base.toList.getLast?.all fun c => 0x20 < c.toNat) (hpath : IsPath path.toList) :
    ∃ kept slashes, (∀ c ∈ slashes, c = '/') ∧ cleaned base.toList = kept ++ slashes ∧
      cleaned (Text.withoutTrailingSlashes base ++ path).toList = kept ++ path.toList := by
  obtain ⟨slashes, hslashes, hbase⟩ := exists_slashes base
  obtain ⟨kept, hkept⟩ := exists_cleaned (Text.withoutTrailingSlashes base).toList
  refine ⟨kept, slashes, hslashes, ?_, ?_⟩
  · rw [hbase] at hlast ⊢
    refine hkept slashes (fun c hc => ?_) fun c hc => ?_
    · rw [hslashes c hc]
      decide
    · rw [hc] at hlast
      exact of_decide_eq_true hlast
  · have hne : path.toList ≠ [] := List.ne_nil_of_mem (List.mem_of_head? hpath.start)
    have hvisible : ∀ c ∈ path.toList, 0x20 < c.toNat := fun c hc =>
      of_decide_eq_true (List.all_eq_true.mp hpath.visible c hc)
    rw [String.toList_append]
    refine hkept path.toList hvisible fun c hc => hvisible c ?_
    rw [List.getLast?_append_of_ne_nil _ hne] at hc
    exact List.mem_of_getLast? hc

/-- An address can be read with a path in place of the slashes at its end. -/
theorem IsBase.exists_read {base path : String} (h : IsBase base) (hpath : IsPath path.toList) :
    ∃ u, read (Text.withoutTrailingSlashes base ++ path).toList = .ok u := by
  obtain ⟨kept, slashes, hslashes, hkeptBase, hkeptPath⟩ := exists_kept h.last hpath
  have hslash : ∀ d, d ≠ '/' → d ∉ slashes := fun d hne hd => hne (hslashes d hd)
  obtain ⟨name, rest, hname, hbody⟩ :=
    exists_read_iff.mp (Outcome.exists_of_isOk h.readable)
  have hnamed := h.named
  rw [hkeptBase, readScheme?_append (hslash _ (by decide))] at hname hnamed
  obtain ⟨⟨name, rest⟩, hrest, heq⟩ := Option.map_eq_some_iff.mp hname
  cases heq
  have hpathName : readScheme? (kept ++ path.toList) = some (name, rest ++ path.toList) := by
    rw [readScheme?_append hpath.signs.1, hrest]
    rfl
  refine exists_read_iff.mpr ⟨name, rest ++ path.toList, hkeptPath ▸ hpathName, ?_⟩
  rcases body_cases rest with hwhole | hpart
  · obtain ⟨hw, hb⟩ := hwhole slashes (hslash _ (by decide)) (hslash _ (by decide))
    obtain ⟨hw', hb'⟩ := hwhole path.toList hpath.signs.2.1 hpath.signs.2.2
    rw [hw, hb] at hbody
    rw [hw', hb']
    refine exists_readBody_path hslashes hpath (fun hsign => ?_) hbody
    rw [hrest, Option.map_some, hsign] at hnamed
    exact hnamed rfl
  · obtain ⟨hw, hb⟩ := hpart slashes (hslash _ (by decide)) (hslash _ (by decide))
    obtain ⟨hw', hb'⟩ := hpart path.toList hpath.signs.2.1 hpath.signs.2.2
    rw [hw, hb] at hbody
    rw [hw', hb']
    exact hbody

end FlowConsole.Url
