import HtmlToLatex.Proofs.Conversion
import HtmlToLatex.Url.Parse

set_option autoImplicit false

/-! # The characters of URL paths

Reading a URL takes its path from the text, encodes some of its characters and puts in slashes and
colons of its own. So a property of characters that those have goes from the text to the path. -/

namespace HtmlToLatex.Url

/-- A property of the characters that reading a URL puts into the path by itself. -/
structure InPaths (C : Char → Prop) : Prop where
  slash : C '/'
  colon : C ':'
  percent : C '%'
  digit : ∀ n < 16, C (upperHexDigit n)

variable {C : Char → Prop} (hC : InPaths C)

include hC

/-! ## Encoding -/

theorem InPaths.percentEncodeChar (set : Char → Bool) {c : Char} (hc : C c) :
    ∀ d ∈ percentEncodeChar set c, C d := by
  intro d hd
  unfold Url.percentEncodeChar at hd
  split at hd
  · obtain ⟨byte, -, hd⟩ := List.mem_flatMap.1 hd
    have hbyte := byte.toNat_lt
    simp only [percentByte, List.mem_cons, List.not_mem_nil, or_false] at hd
    rcases hd with rfl | rfl | rfl
    · exact hC.percent
    · exact hC.digit _ (by omega)
    · exact hC.digit _ (by omega)
  · rw [List.mem_singleton] at hd
    exact hd ▸ hc

theorem InPaths.percentEncode (set : Char → Bool) {s : List Char} (hs : ∀ c ∈ s, C c) :
    ∀ c ∈ percentEncode set s, C c := by
  intro c hc
  obtain ⟨d, hd, hc⟩ := List.mem_flatMap.1 hc
  exact hC.percentEncodeChar set (hs d hd) c hc

/-! ## Segments -/

theorem InPaths.appendFileSegment {path segment : List Char} (hpath : ∀ c ∈ path, C c)
    (hsegment : ∀ c ∈ segment, C c) : ∀ c ∈ (appendFileSegment path segment).1, C c := by
  induction segment generalizing path with
  | nil => exact hpath
  | cons d segment ih =>
      simp only [List.forall_mem_cons] at hsegment
      refine ih (List.forall_mem_append.2 ⟨?_, hC.percentEncodeChar _ hsegment.1⟩) hsegment.2
      split
      · exact List.forall_mem_append.2 ⟨hpath, by simpa using hC.slash⟩
      · exact hpath

theorem InPaths.appendSegment (kind : SchemeKind) {path segment : List Char}
    (hpath : ∀ c ∈ path, C c) (hsegment : ∀ c ∈ segment, C c) :
    ∀ c ∈ (appendSegment kind path segment).1, C c := by
  unfold Url.appendSegment
  split
  · exact hC.appendFileSegment hpath hsegment
  · exact List.forall_mem_append.2 ⟨hpath, hC.percentEncode _ hsegment⟩

omit hC in
theorem upToLastSlash_subset (path : List Char) : upToLastSlash path ⊆ path := by
  intro c hc
  rw [upToLastSlash, List.mem_reverse] at hc
  exact List.mem_reverse.1 ((List.dropWhile_sublist _).subset hc)

omit hC in
theorem dropLastSegment_subset (kind : SchemeKind) (path : List Char) :
    dropLastSegment kind path ⊆ path := by
  unfold dropLastSegment
  split
  · exact List.Subset.refl path
  · exact upToLastSlash_subset path

theorem InPaths.ascend (kind : SchemeKind) (slash : Bool) {path : List Char}
    (hpath : ∀ c ∈ path, C c) : ∀ c ∈ ascend kind slash path, C c := by
  have hfront : ∀ c ∈ (if path.getLast? == some '/' && lastSlashMayGo path then path.dropLast
      else path), C c := by
    split
    · exact fun c hc => hpath c (List.dropLast_subset path hc)
    · exact hpath
  unfold Url.ascend
  dsimp only
  generalize (if path.getLast? == some '/' && lastSlashMayGo path then path.dropLast
      else path) = front at hfront ⊢
  have hdropped : ∀ c ∈ dropLastSegment kind front, C c :=
    fun c hc => hfront c (dropLastSegment_subset kind front hc)
  split
  · exact List.forall_mem_append.2 ⟨hdropped, by simpa using hC.slash⟩
  · exact hdropped

theorem InPaths.add (kind : SchemeKind) {state : PathState} (slash : Bool) {segment : List Char}
    (hpath : ∀ c ∈ state.path, C c) (hsegment : ∀ c ∈ segment, C c) :
    ∀ c ∈ (state.add kind slash segment).path, C c := by
  have hwritten := hC.appendSegment kind hpath hsegment
  have hslashes : ∀ c ∈ (if slash then ['/'] else []), C c := by
    split
    · simpa using hC.slash
    · simp
  unfold PathState.add
  generalize Url.appendSegment kind state.path segment = appended at hwritten ⊢
  obtain ⟨path, gaps⟩ := appended
  dsimp only at hwritten ⊢
  generalize state.path.length + gaps = start
  have htake : ∀ c ∈ path.take start, C c := fun c hc => hwritten c (List.take_subset _ _ hc)
  have hdrop : ∀ c ∈ path.drop start, C c := fun c hc => hwritten c (List.drop_subset _ _ hc)
  -- Segments of dots are taken back; a drive letter is written anew with a colon.
  split
  · exact hC.ascend kind slash htake
  · dsimp only
    split
    · exact htake
    · exact List.forall_mem_append.2 ⟨htake, by simpa using hC.slash⟩
  · split
    · refine List.forall_mem_append.2 ⟨List.forall_mem_append.2 ⟨htake, ?_⟩,
        List.forall_mem_cons.2 ⟨hC.colon, hslashes⟩⟩
      exact fun c hc => hdrop c (List.take_subset _ _ hc)
    · exact List.forall_mem_append.2 ⟨hwritten, hslashes⟩

omit hC in
theorem splitSegments_subset (kind : SchemeKind) (text : List Char) :
    ∀ segment ∈ splitSegments kind text, segment ⊆ text := by
  induction text with
  | nil => simp [splitSegments]
  | cons c r ih =>
      have hrest : ∀ segment ∈ splitSegments kind r, segment ⊆ c :: r :=
        fun segment hmem => List.subset_cons_of_subset c (ih segment hmem)
      simp only [splitSegments]
      split
      · exact List.forall_mem_cons.2 ⟨List.nil_subset _, hrest⟩
      · split
        · simp
        next first others heq =>
          rw [heq] at hrest ih
          simp only [List.forall_mem_cons] at hrest ih ⊢
          exact ⟨List.cons_subset_cons c ih.1, hrest.2⟩

/-- Segments that are put in one after the other. -/
theorem InPaths.addAll (kind : SchemeKind) {state : PathState} {segments : List (List Char)}
    (hpath : ∀ c ∈ state.path, C c) (hsegments : ∀ segment ∈ segments, ∀ c ∈ segment, C c) :
    ∀ c ∈ (state.addAll kind segments).path, C c := by
  induction segments generalizing state with
  | nil => exact hpath
  | cons segment segments ih =>
      rw [List.forall_mem_cons] at hsegments
      cases segments with
      | nil => exact hC.add kind false hpath hsegments.1
      | cons next others => exact ih (hC.add kind true hpath hsegments.1) hsegments.2

theorem InPaths.buildPath (kind : SchemeKind) {beginning text : List Char}
    (hbeginning : ∀ c ∈ beginning, C c) (htext : ∀ c ∈ text, C c) :
    ∀ c ∈ (buildPath kind beginning text).path, C c := by
  have hall : ∀ c ∈ (PathState.addAll kind { path := beginning } (splitSegments kind text)).path,
      C c :=
    hC.addAll kind hbeginning fun segment hmem c hc =>
      htext c (splitSegments_subset kind text segment hmem hc)
  unfold Url.buildPath
  dsimp only
  split
  · exact List.forall_mem_cons.2
      ⟨hC.slash, fun c hc => hall c ((List.dropWhile_sublist _).subset hc)⟩
  · exact hall

/-! ## Reading -/

omit hC in
theorem path_withTail (kind : SchemeKind) (u : Url) (tail : List Char) :
    (withTail kind u tail).path = u.path := by
  unfold withTail
  dsimp only
  split <;> split <;> rfl

omit hC in
theorem splitLastAt?_subset {s user rest : List Char} (h : splitLastAt? s = some (user, rest)) :
    rest ⊆ s := by
  unfold splitLastAt? at h
  split at h
  · cases h
    intro c hc
    exact List.mem_reverse.1 ((List.takeWhile_sublist _).subset (List.mem_reverse.1 hc))
  · cases h

omit hC in
theorem splitHost_subset (inBrackets : Bool) (s : List Char) :
    (splitHost inBrackets s).2 ⊆ s := by
  induction s generalizing inBrackets with
  | nil => simp [splitHost]
  | cons c r ih =>
      unfold splitHost
      split
      · exact List.Subset.refl _
      · exact List.subset_cons_of_subset c (ih _)

omit hC in
theorem readPort_subset {value : Nat} {seen : Bool} {s rest : List Char} {port : Option Nat}
    (h : readPort value seen s = .ok (port, rest)) : rest ⊆ s := by
  induction s generalizing value seen with
  | nil =>
      cases h
      exact List.Subset.refl _
  | cons c r ih =>
      unfold readPort at h
      split at h
      · dsimp only at h
        split at h
        · cases h
        · exact List.subset_cons_of_subset c (ih h)
      · split at h
        · cases h
          exact List.Subset.refl _
        · cases h

omit hC in
/-- What follows an authority is part of the text. -/
theorem readAuthority_subset {scheme : String} {s rest : List Char} {a : Authority}
    (h : readAuthority scheme s = .ok (a, rest)) : rest ⊆ s := by
  unfold readAuthority at h
  extract_lets kind front after read at h
  -- User, host and port are read one after the other, each from an end of what was there before.
  have hread : ∀ user text, read (user, text) = .ok (a, rest) → rest ⊆ text := by
    intro user text hok
    unfold read at hok
    dsimp -zeta only at hok
    extract_lets hostFront unread finish at hok
    have hunread : unread ⊆ text := by
      refine List.append_subset.2 ⟨fun c hc => ?_, List.drop_subset _ _⟩
      exact (List.takeWhile_sublist _).subset (splitHost_subset false hostFront hc)
    clear_value unread
    have hfinish : ∀ host, finish host = .ok (a, rest) → rest ⊆ unread := by
      intro host hok
      unfold finish at hok
      extract_lets hostText close at hok
      have hclose : ∀ port back, close (port, back) = .ok (a, rest) → rest = back := by
        intro port back hok
        unfold close at hok
        dsimp only at hok
        split at hok
        · cases hok
        · cases hok
          rfl
      split at hok
      · cases hok
      · split at hok
        · obtain ⟨⟨port, back⟩, hport, hok⟩ := exists_of_bind_eq_ok hok
          rw [hclose _ _ hok]
          exact List.subset_cons_of_subset _ (readPort_subset hport)
        · rw [hclose _ _ hok]
          exact List.Subset.refl _
    refine List.Subset.trans ?_ hunread
    split at hok
    · split at hok
      · cases hok
      · obtain ⟨host, -, hok⟩ := exists_of_bind_eq_ok hok
        exact hfinish host hok
    · obtain ⟨host, -, hok⟩ := exists_of_bind_eq_ok hok
      exact hfinish host hok
  have hafter : after ⊆ s := (List.dropWhile_sublist _).subset
  have hfront : front ⊆ s := (List.takeWhile_sublist _).subset
  split at h
  · exact List.Subset.trans (hread _ _ h) (List.append_subset.2 ⟨hfront, hafter⟩)
  next user text hlast =>
    split at h
    · cases h
    · refine List.Subset.trans (hread _ _ h) (List.append_subset.2 ⟨?_, hafter⟩)
      exact List.Subset.trans (splitLastAt?_subset hlast) hfront

/-! ## The paths of URLs -/

theorem InPaths.ofAuthority (scheme : String) (a : Authority) {rest : List Char}
    (hrest : ∀ c ∈ rest, C c) : ∀ c ∈ (ofAuthority scheme a rest).path, C c := by
  have hslash : ∀ c ∈ ['/'], C c := by simpa using hC.slash
  have htext : ∀ c ∈ (splitPath rest).1, C c :=
    fun c hc => hrest c ((List.takeWhile_sublist _).subset hc)
  unfold Url.ofAuthority
  dsimp only
  rw [path_withTail]
  dsimp only
  generalize (splitPath rest).1 = text at htext
  split
  · split
    · simp
    · exact hC.buildPath _ (by simp) htext
    · exact hC.buildPath _ hslash htext
  · split
    · split
      · exact hC.buildPath _ hslash (List.forall_mem_cons.1 htext).2
      · exact hC.buildPath _ hslash htext
    · exact hslash

theorem InPaths.parseOther {scheme : String} {s : List Char} {url : Url} (hs : ∀ c ∈ s, C c)
    (h : parseOther scheme s = .ok url) : ∀ c ∈ url.path, C c := by
  have hslash : ∀ c ∈ ['/'], C c := by simpa using hC.slash
  unfold Url.parseOther at h
  split at h
  · obtain ⟨⟨a, rest⟩, hauthority, h⟩ := exists_of_bind_eq_ok h
    cases h
    simp only [List.forall_mem_cons] at hs
    exact hC.ofAuthority scheme a fun c hc => hs.2.2 c (readAuthority_subset hauthority hc)
  · cases h
    rw [path_withTail]
    rw [List.forall_mem_cons] at hs
    exact hC.buildPath _ hslash fun c hc => hs.2 c ((List.takeWhile_sublist _).subset hc)
  · cases h
    rw [path_withTail]
    exact hC.percentEncode _ fun c hc => hs c ((List.takeWhile_sublist _).subset hc)

theorem InPaths.parseFile {s : List Char} {url : Url} (hs : ∀ c ∈ s, C c)
    (h : parseFile s = .ok url) : ∀ c ∈ url.path, C c := by
  have hslash : ∀ c ∈ ['/'], C c := by simpa using hC.slash
  unfold Url.parseFile at h
  extract_lets build at h
  -- The path is always built from a beginning and an end of the text, whatever the host is.
  have hbuild : ∀ host beginning rest, (∀ c ∈ beginning, C c) → (∀ c ∈ rest, C c) →
      ∀ c ∈ (build host beginning rest).path, C c := by
    intro host beginning rest hbeginning hrest
    unfold build
    dsimp only
    rw [path_withTail]
    exact hC.buildPath _ hbeginning fun c hc => hrest c ((List.takeWhile_sublist _).subset hc)
  clear_value build
  have hempty : ∀ c ∈ ([] : List Char), C c := by simp
  split at h
  next a b r =>
    split at h
    · obtain ⟨host, -, h⟩ := exists_of_bind_eq_ok h
      have hr : ∀ c ∈ r, C c := fun c hc => hs c (by simp [hc])
      have hrest : ∀ c ∈ (if isDriveLetter (r.takeWhile fun c => !endsAuthority .file c) then r
          else r.drop (r.takeWhile fun c => !endsAuthority .file c).length), C c := by
        split
        · exact hr
        · exact fun c hc => hr c (List.drop_subset _ _ hc)
      dsimp only at h
      generalize (if isDriveLetter (r.takeWhile fun c => !endsAuthority .file c) then r
          else r.drop (r.takeWhile fun c => !endsAuthority .file c).length) = rest at hrest h
      split at h
      · cases h
        exact hbuild _ _ _ hslash hrest
      · split at h
        · cases h
          refine hbuild _ _ _ hslash ?_
          split
          · exact (List.forall_mem_cons.1 hrest).2
          · exact hrest
        · cases h
          exact hbuild _ _ _ hslash hempty
    · split at h
      · cases h
        exact hbuild _ _ _ hempty hs
      · cases h
        exact hbuild _ _ _ hslash hs
  · cases h
    split
    · exact hbuild _ _ _ hempty hs
    · exact hbuild _ _ _ hslash hs
  · cases h
    exact hbuild _ _ _ hslash hempty

omit hC in
theorem splitScheme?_subset {s rest : List Char} {scheme : String}
    (h : splitScheme? s = some (scheme, rest)) : rest ⊆ s := by
  unfold splitScheme? at h
  split at h
  · split at h
    next tail hdrop =>
      cases h
      refine List.Subset.trans (List.subset_cons_self ':' _) ?_
      rw [← hdrop]
      exact (List.dropWhile_sublist _).subset
    · cases h
  · cases h

omit hC in
theorem prepare_subset (s : List Char) : prepare s ⊆ s := by
  intro c hc
  have hc := (List.mem_filter.1 hc).1
  rw [List.mem_reverse] at hc
  have hc := (List.dropWhile_sublist _).subset hc
  exact (List.dropWhile_sublist _).subset (List.mem_reverse.1 hc)

/-- **A property of characters goes from a text to the path of its URL.** -/
theorem InPaths.parse {text : String} {url : Url} (htext : ∀ c ∈ text.toList, C c)
    (h : Url.parse text = .ok url) : ∀ c ∈ url.path, C c := by
  unfold Url.parse at h
  split at h
  · cases h
  next scheme rest hscheme =>
    have hrest : ∀ c ∈ rest, C c :=
      fun c hc => htext c (prepare_subset _ (splitScheme?_subset hscheme hc))
    split at h
    · exact hC.parseFile hrest h
    · obtain ⟨⟨a, after⟩, hauthority, h⟩ := exists_of_bind_eq_ok h
      cases h
      refine hC.ofAuthority scheme a fun c hc => hrest c ?_
      exact (List.dropWhile_sublist _).subset (readAuthority_subset hauthority hc)
    · exact hC.parseOther hrest h

end HtmlToLatex.Url
