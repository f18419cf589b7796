import Free4Chat.Runtime.SessionDiscovery

/-!
# Session Discovery Pages Through

Following the token of the next page until there is no more ends, and gives every session of the
provider that is shown exactly once and in its order. A page that has more gives a row or consumes
one of the provider, and its token is kept until it is presented, evicted or expires. A token is
accepted only from the Human that it was issued to, and once. This holds in every run with a
provider that does not repeat a session on another page, in which there is always room for the
tokens of the next row, and in which the pages of the provider that make up a page that has more are
not all empty.

The source breaks this as it looks for sessions that are repeated within one page of the provider
only, and as a page that finds no room for a token has no rows and says that there is more.

* `CompleteListing`: what a listing gives.
* `DiscoveryRun.PagesThrough`: what holds of states.
* `DiscoveryRun.findsRoom`: the condition on the steps.
* `pagesThrough_of_findsRoom`: the property, over every run.
* `not_pagesThrough_repeated` and `not_pagesThrough_full`: runs in which a session is shown twice,
  and in which a page goes on without end.
-/

namespace Free4Chat

/-! ## The property -/

/-- The rows are the sessions that are shown, each once, and in their order. -/
structure CompleteListing (root : String) (sessions rows : List ACPSessionInfo) : Prop where
  sublist : rows.Sublist sessions
  nodup : (rows.map ACPSessionInfo.sessionID).Nodup
  shown : ∀ info ∈ rows, pathWithinRoot root info.cwd = false
  covers : ∀ info ∈ sessions, pathWithinRoot root info.cwd = false →
    info.sessionID ∈ rows.map ACPSessionInfo.sessionID

/-- No session that is shown is on two pages of the provider. -/
def SessionProvider.Distinct (provider : SessionProvider) (root : String) : Prop :=
  ∀ cwd pages, Paging.Pages (provider.list cwd) "" "" pages →
    pages.Pairwise fun page page' => ∀ info ∈ page, ∀ info' ∈ page',
      pathWithinRoot root info.cwd = false → pathWithinRoot root info'.cwd = false →
        info.sessionID ≠ info'.sessionID

namespace DiscoveryRun

variable (d : DiscoveryRun)

/-- Listings make progress, end, and are complete. Tokens are accepted once, from their Human. -/
structure PagesThrough (provider : SessionProvider) (root : String) (d : DiscoveryRun) : Prop where
  progress : ∀ w ∈ d.walks, ∀ page ∈ w.served, page.hasMore = true →
    page.rows ≠ [] ∨ page.consumed ≠ []
  finite : ∀ w ∈ d.walks, ∀ pages, Paging.Pages (provider.list w.cwd) "" "" pages →
    w.served.length ≤ pages.flatten.length + 1
  complete : ∀ w ∈ d.walks, w.nextPageToken = none →
    ∀ pages, Paging.Pages (provider.list w.cwd) "" "" pages →
      CompleteListing root pages.flatten w.rows
  live : ∀ w ∈ d.walks, ∀ t, w.nextPageToken = some t →
    t ∈ d.retired ∨ ∃ page, d.pages.get? t = some page ∧ page.human = w.human
  once : (d.accepted.map Prod.fst).Nodup
  bound : ∀ entry ∈ d.accepted, entry ∈ d.issued

/-- Whether there is room for the tokens of the first row. -/
def hasRoom (human : String) (f : Fetched) : Bool :=
  f.pending.head?.all fun info =>
    d.sessions.size < taskSessionMaxSessionTokens &&
      ((d.project? human info.cwd).isSome || d.projects.size < taskSessionMaxProjectTokens)

/-- There is room for the first row that a request finds, and a request that finds none consumes a
row of the provider or is at its end. -/
def findsRoom (provider : SessionProvider) (root : String) : DiscoveryStep → Bool
  | .list control now failsAt =>
    let d₁ := d.pruneTaskSessionCache now
    !d.sessionHumanIsCurrent control.humanParticipantID ||
      (d₁.position? now control).all fun position =>
        (fetch? provider root position failsAt).all fun f =>
          d₁.hasRoom control.humanParticipantID f &&
            (f.pending ≠ [] || f.cursor = "" || f.pages.flatten ≠ [])
  | _ => true

end DiscoveryRun

/-! ## Sessions that are shown -/

section Filter

variable {root : String}

lemma filterTaskSessions_sublist (seen : List String) (sessions : List ACPSessionInfo) :
    (filterTaskSessions root seen sessions).Sublist sessions := by
  induction sessions generalizing seen with
  | nil => exact List.Sublist.refl _
  | cons info sessions ih =>
    unfold filterTaskSessions
    split
    · exact (ih seen).cons info
    · split
      · exact (ih seen).cons info
      · exact (ih _).cons_cons info

variable {sessions : List ACPSessionInfo}

lemma shown_of_mem_filterTaskSessions {seen : List String}
    {info : ACPSessionInfo} (h : info ∈ filterTaskSessions root seen sessions) :
    pathWithinRoot root info.cwd = false := by
  induction sessions generalizing seen with
  | nil => cases h
  | cons first sessions ih =>
    unfold filterTaskSessions at h
    split at h
    · exact ih h
    · next houtside =>
      split at h
      · exact ih h
      · rcases List.mem_cons.mp h with rfl | hmem
        · exact Bool.not_eq_true _ ▸ houtside
        · exact ih hmem

lemma nodup_filterTaskSessions (seen : List String) (sessions : List ACPSessionInfo) :
    ((filterTaskSessions root seen sessions).map ACPSessionInfo.sessionID).Nodup ∧
      ∀ id ∈ (filterTaskSessions root seen sessions).map ACPSessionInfo.sessionID, id ∉ seen := by
  induction sessions generalizing seen with
  | nil => exact ⟨List.nodup_nil, fun id hid => by cases hid⟩
  | cons info sessions ih =>
    unfold filterTaskSessions
    split
    · exact ih seen
    · split
      · exact ih seen
      · next hnew =>
        obtain ⟨hnodup, hunseen⟩ := ih (info.sessionID :: seen)
        rw [List.map_cons]
        refine ⟨List.nodup_cons.mpr ⟨fun hmem => ?_, hnodup⟩, fun id hid hseen => ?_⟩
        · exact hunseen _ hmem List.mem_cons_self
        · rcases List.mem_cons.mp hid with rfl | hmem
          · exact hnew hseen
          · exact hunseen id hmem (List.mem_cons_of_mem _ hseen)

lemma covers_filterTaskSessions (seen : List String)
    {info : ACPSessionInfo} (h : info ∈ sessions) (hshown : pathWithinRoot root info.cwd = false) :
    info.sessionID ∈ seen ∨
      info.sessionID ∈ (filterTaskSessions root seen sessions).map ACPSessionInfo.sessionID := by
  induction sessions generalizing seen with
  | nil => cases h
  | cons first sessions ih =>
    unfold filterTaskSessions
    rcases List.mem_cons.mp h with rfl | hmem
    · rw [if_neg (by rw [hshown]; exact Bool.false_ne_true)]
      split
      · next hseen => exact Or.inl hseen
      · exact Or.inr List.mem_cons_self
    · split
      · exact ih seen hmem
      · split
        · exact ih seen hmem
        · rw [List.map_cons]
          rcases ih (first.sessionID :: seen) hmem with hseen | hshows
          · rcases List.mem_cons.mp hseen with heq | hseen
            · exact Or.inr (List.mem_cons.mpr (Or.inl heq))
            · exact Or.inl hseen
          · exact Or.inr (List.mem_cons_of_mem _ hshows)

/-- What is shown of the pages of the provider. -/
def shownSessions (root : String) (pages : List (List ACPSessionInfo)) : List ACPSessionInfo :=
  pages.flatMap (filterTaskSessions root [])

lemma length_shownSessions_le (pages : List (List ACPSessionInfo)) :
    (shownSessions root pages).length ≤ pages.flatten.length := by
  induction pages with
  | nil => exact Nat.le_refl _
  | cons page pages ih =>
    unfold shownSessions at ih ⊢
    rw [List.flatMap_cons, List.length_append, List.flatten_cons, List.length_append]
    exact Nat.add_le_add (filterTaskSessions_sublist [] page).length_le ih

lemma completeListing_shownSessions {pages : List (List ACPSessionInfo)}
    (h : pages.Pairwise fun page page' => ∀ info ∈ page, ∀ info' ∈ page',
      pathWithinRoot root info.cwd = false → pathWithinRoot root info'.cwd = false →
        info.sessionID ≠ info'.sessionID) :
    CompleteListing root pages.flatten (shownSessions root pages) := by
  induction pages with
  | nil =>
    refine ⟨List.Sublist.refl _, List.nodup_nil, fun info hmem => ?_, fun info hmem => ?_⟩
    · cases hmem
    · cases hmem
  | cons page pages ih =>
    obtain ⟨hfirst, hrest⟩ := List.pairwise_cons.mp h
    obtain ⟨hsublist, hnodup, hshown, hcovers⟩ := ih hrest
    have hcons : shownSessions root (page :: pages) =
        filterTaskSessions root [] page ++ shownSessions root pages := List.flatMap_cons
    rw [hcons, List.flatten_cons]
    refine ⟨(filterTaskSessions_sublist [] page).append hsublist, ?_, fun info hmem => ?_,
      fun info hmem houtside => ?_⟩
    · rw [List.map_append, List.nodup_append]
      refine ⟨(nodup_filterTaskSessions [] page).1, hnodup, fun id hid id' hid' heq => ?_⟩
      obtain ⟨info, hinfo, rfl⟩ := List.mem_map.mp hid
      obtain ⟨info', hinfo', rfl⟩ := List.mem_map.mp hid'
      -- The second one is on a later page.
      obtain ⟨page', hpage', hmem'⟩ := List.mem_flatten.mp (hsublist.subset hinfo')
      exact hfirst page' hpage' info ((filterTaskSessions_sublist [] page).subset hinfo) info' hmem'
        (shown_of_mem_filterTaskSessions hinfo) (hshown info' hinfo') heq
    · rcases List.mem_append.mp hmem with hmem | hmem
      · exact shown_of_mem_filterTaskSessions hmem
      · exact hshown info hmem
    · rw [List.map_append]
      rcases List.mem_append.mp hmem with hmem | hmem
      · rcases covers_filterTaskSessions [] hmem houtside with hseen | hshows
        · cases hseen
        · exact List.mem_append_left _ hshows
      · exact List.mem_append_right _ (hcovers info hmem houtside)

end Filter

/-! ## Fetching -/

section Fetch

variable {list : String → Option (List ACPSessionInfo × String)} {root : String}
  {failsAt : Option ℕ}

lemma fetchSessions_of_pending {limit fetched : ℕ} {f : Fetched} (h : f.pending ≠ []) :
    fetchSessions list root failsAt limit fetched f = some f := by
  cases limit with
  | zero => rfl
  | succ limit =>
    unfold fetchSessions
    rw [if_neg h]

/-- Without rows at hand, pages of the provider are consumed until there is a row to show. -/
lemma fetchSessions_spec {limit fetched : ℕ} {f g : Fetched} {rest : List (List ACPSessionInfo)}
    (hrest : Paging.Pages list "" f.cursor rest) (hnone : f.pending = [])
    (hstart : f.cursor ≠ "" ∨ (0 < limit ∧ fetched = 0))
    (h : fetchSessions list root failsAt limit fetched f = some g) :
    ∃ consumed left, rest = consumed ++ left ∧ Paging.Remaining list "" g.cursor left ∧
      g.pages = f.pages ++ consumed ∧ g.pending = shownSessions root consumed := by
  have hstays : f.cursor ≠ "" → g = f →
      ∃ consumed left, rest = consumed ++ left ∧ Paging.Remaining list "" g.cursor left ∧
        g.pages = f.pages ++ consumed ∧ g.pending = shownSessions root consumed := by
    rintro hne rfl
    refine ⟨[], rest, rfl, ⟨fun heq => absurd heq hne, fun _ => hrest⟩, ?_, hnone⟩
    exact (List.append_nil _).symm
  induction limit generalizing fetched f rest with
  | zero =>
    cases h
    obtain hne | ⟨hlt, -⟩ := hstart
    · exact hstays hne rfl
    · exact absurd hlt (Nat.lt_irrefl 0)
  | succ limit ih =>
    obtain ⟨page, cursor, left, hlist, rfl, hleft⟩ := hrest.exists_page
    unfold fetchSessions at h
    rw [if_pos hnone] at h
    by_cases hfails : failsAt = some fetched
    · rw [if_pos hfails] at h
      dsimp only at h
      split at h
      · next hlt =>
        obtain hne | ⟨-, hzero⟩ := hstart
        · exact hstays hne (Option.some.inj h).symm
        · rw [hzero] at hlt
          exact absurd hlt (Nat.lt_irrefl 0)
      · cases h
    · rw [if_neg hfails, hlist] at h
      dsimp only at h
      have hpending : (f.consume root page cursor).pending = filterTaskSessions root [] page := by
        show f.pending ++ _ = _
        rw [hnone, List.nil_append]
      have hone : (f.consume root page cursor).pending = shownSessions root [page] := by
        rw [hpending]
        unfold shownSessions
        rw [List.flatMap_singleton]
      split at h
      · cases h
        exact ⟨[page], left, rfl, hleft, rfl, hone⟩
      · next hne =>
        by_cases hshows : (f.consume root page cursor).pending = []
        · obtain ⟨consumed, left', rfl, hremaining, hpages, hconsumed⟩ :=
            ih (hleft.more hne) hshows (Or.inl hne) h fun _ heq => by
              subst heq
              refine ⟨[], left, rfl, ⟨fun heq => absurd heq hne, fun _ => hleft.more hne⟩, ?_,
                hshows⟩
              exact (List.append_nil _).symm
          refine ⟨page :: consumed, left', rfl, hremaining, ?_, ?_⟩
          · rw [hpages]
            exact List.append_assoc _ _ _
          · rw [hconsumed]
            show _ = (page :: consumed).flatMap (filterTaskSessions root [])
            rw [List.flatMap_cons, ← hpending, hshows]
            rfl
        · -- There are rows to show.
          cases (fetchSessions_of_pending hshows).symm.trans h
          exact ⟨[page], left, rfl, hleft, rfl, hone⟩

end Fetch

/-! ## Issuing tokens -/

namespace DiscoveryRun

variable {d d' d'' : DiscoveryRun}

/-- Tokens are issued to Humans, and pages are given up, and nothing else happens. -/
structure Issues (d d' : DiscoveryRun) : Prop where
  walks : d'.walks = d.walks
  accepted : d'.accepted = d.accepted
  nextToken : d.nextToken ≤ d'.nextToken
  issued : ∀ entry ∈ d.issued, entry ∈ d'.issued
  retired : ∀ t ∈ d.retired, t ∈ d'.retired
  sessions : ∀ selection ∈ d'.sessions.values, selection ∈ d.sessions.values ∨
    (d.nextToken ≤ selection.token ∧ selection.token < d'.nextToken ∧
      (selection.token, selection.humanParticipantID) ∈ d'.issued)
  pages : ∀ page ∈ d'.pages.values, page ∈ d.pages.values
  kept : ∀ t page, d.pages.get? t = some page → d'.pages.get? t = some page ∨ t ∈ d'.retired

namespace Issues

lemma refl (d : DiscoveryRun) : d.Issues d where
  walks := rfl
  accepted := rfl
  nextToken := Nat.le_refl _
  issued := fun _ h => h
  retired := fun _ h => h
  sessions := fun _ h => Or.inl h
  pages := fun _ h => h
  kept := fun _ _ h => Or.inl h

lemma trans (h : d.Issues d') (h' : d'.Issues d'') : d.Issues d'' where
  walks := h'.walks.trans h.walks
  accepted := h'.accepted.trans h.accepted
  nextToken := Nat.le_trans h.nextToken h'.nextToken
  issued := fun entry hmem => h'.issued entry (h.issued entry hmem)
  retired := fun t hmem => h'.retired t (h.retired t hmem)
  sessions := by
    intro selection hmem
    rcases h'.sessions selection hmem with hold | ⟨hle, hlt, hissued⟩
    · rcases h.sessions selection hold with hold | ⟨hle, hlt, hissued⟩
      · exact Or.inl hold
      · exact Or.inr ⟨hle, Nat.lt_of_lt_of_le hlt h'.nextToken, h'.issued _ hissued⟩
    · exact Or.inr ⟨Nat.le_trans h.nextToken hle, hlt, hissued⟩
  pages := fun page hmem => h.pages page (h'.pages page hmem)
  kept := by
    intro t page hget
    rcases h.kept t page hget with hkept | hretired
    · exact h'.kept t page hkept
    · exact Or.inr (h'.retired t hretired)

lemma of_pruneTaskSessionCache (d : DiscoveryRun) (now : ℤ) :
    d.Issues (d.pruneTaskSessionCache now) where
  walks := rfl
  accepted := rfl
  nextToken := Nat.le_refl _
  issued := fun _ h => h
  retired := fun _ h => List.mem_append_left _ h
  sessions := fun _ h => Or.inl (List.mem_filter.mp h).1
  pages := fun _ h => (List.mem_filter.mp h).1
  kept := by
    intro t page hget
    show (d.pages.filter _).get? t = some page ∨ t ∈ d.retired ++ _
    rw [KeyedMap.get?_filter, hget]
    by_cases hexpired : page.expires ≤ now
    · refine Or.inr (List.mem_append_right _ (List.mem_map.mpr ⟨page, ?_, ?_⟩))
      · exact List.mem_filter.mpr ⟨KeyedMap.mem_of_get? hget, decide_eq_true hexpired⟩
      · exact KeyedMap.key_of_get? hget
    · refine Or.inl ?_
      rw [Option.filter_some, if_pos (decide_eq_true (Int.not_le.mp hexpired))]

lemma of_takePageToken (d : DiscoveryRun) (token : Option ℕ) :
    d.Issues (d.takePageToken token) := by
  cases token with
  | none => exact refl d
  | some t =>
    refine ⟨rfl, rfl, Nat.le_refl _, fun _ h => h, fun _ h => List.mem_append_left _ h,
      fun _ h => Or.inl h, fun _ h => (KeyedMap.mem_erase.mp h).1, fun t' page hget => ?_⟩
    show (d.pages.erase t).get? t' = some page ∨ t' ∈ d.retired ++ [t]
    rw [KeyedMap.get?_erase]
    by_cases heq : t = t'
    · exact Or.inr (List.mem_append_right _ (List.mem_singleton.mpr heq.symm))
    · rw [if_neg heq]
      exact Or.inl hget

lemma of_evictPages (fuel : ℕ) (d : DiscoveryRun) : d.Issues (evictPages fuel d) := by
  induction fuel generalizing d with
  | zero => exact refl d
  | succ fuel ih =>
    unfold evictPages
    split
    · split
      · exact refl d
      · next page _ => exact (of_takePageToken d (some page.token)).trans (ih _)
    · exact refl d

lemma of_issueSessionToken? {human : String} {now : ℤ} {info : ACPSessionInfo}
    (h : d.issueSessionToken? human now info = some d') : d.Issues d' := by
  unfold issueSessionToken? at h
  split at h
  · cases h
  · cases h
    refine ⟨rfl, rfl, Nat.le_succ _, fun _ h => List.mem_append_left _ h, fun _ h => h,
      fun selection hmem => ?_, fun _ h => h, fun _ _ h => Or.inl h⟩
    rcases KeyedMap.mem_set.mp hmem with rfl | ⟨hold, -⟩
    · refine Or.inr ⟨Nat.le_refl _, Nat.lt_succ_self _, ?_⟩
      exact List.mem_append_right _ (List.mem_singleton.mpr rfl)
    · exact Or.inl hold

lemma of_issueProjectToken? {human cwd : String} {now : ℤ} {token : ℕ}
    (h : d.issueProjectToken? human now cwd = some (d', token)) : d.Issues d' := by
  unfold issueProjectToken? at h
  split at h
  · cases h
    exact refl d
  · split at h
    · cases h
    · cases h
      exact ⟨rfl, rfl, Nat.le_succ _, fun _ h => h, fun _ h => h, fun _ h => Or.inl h,
        fun _ h => h, fun _ _ h => Or.inl h⟩

lemma of_issueRows (human : String) (now : ℤ) (limit : ℕ) (pending : List ACPSessionInfo)
    (d : DiscoveryRun) : d.Issues (issueRows human now limit pending d).1 := by
  induction limit generalizing pending d with
  | zero => exact refl d
  | succ limit ih =>
    cases pending with
    | nil => exact refl d
    | cons info pending =>
      unfold issueRows
      split
      · exact refl d
      · next d₁ hsession =>
        split
        · exact of_issueSessionToken? hsession
        · next d₂ token hproject =>
          exact ((of_issueSessionToken? hsession).trans (of_issueProjectToken? hproject)).trans
            (ih pending d₂)

end Issues

lemma issueRows_ne_nil {human : String} {now : ℤ} {limit : ℕ} {f : Fetched} (hlimit : 0 < limit)
    (hpending : f.pending ≠ []) (hroom : d.hasRoom human f = true) :
    (issueRows human now limit f.pending d).2 ≠ [] := by
  obtain ⟨info, pending, hcons⟩ := List.exists_cons_of_ne_nil hpending
  obtain ⟨limit', rfl⟩ := Nat.exists_eq_succ_of_ne_zero (Nat.pos_iff_ne_zero.mp hlimit)
  unfold hasRoom at hroom
  rw [hcons, List.head?_cons, Option.all_some, Bool.and_eq_true, decide_eq_true_eq,
    Bool.or_eq_true, decide_eq_true_eq] at hroom
  obtain ⟨hsessions, hprojects⟩ := hroom
  have hsession : ∃ d₁, d.issueSessionToken? human now info = some d₁ ∧
      d₁.projects = d.projects := by
    unfold issueSessionToken?
    rw [if_neg (Nat.not_le.mpr hsessions)]
    exact ⟨_, rfl, rfl⟩
  have hproject : ∀ d₁ : DiscoveryRun, d₁.projects = d.projects →
      ∃ d₂ token, d₁.issueProjectToken? human now info.cwd = some (d₂, token) := by
    intro d₁ hsame
    unfold issueProjectToken? project?
    rw [hsame]
    cases hfind : d.projects.values.find? fun project =>
        project.humanParticipantID = human && project.cwd = info.cwd with
    | some project => exact ⟨_, _, rfl⟩
    | none =>
      rcases hprojects with hsome | hlt
      · unfold project? at hsome
        rw [hfind] at hsome
        cases hsome
      · dsimp only
        rw [if_neg (Nat.not_le.mpr hlt)]
        exact ⟨_, _, rfl⟩
  obtain ⟨d₁, hfirst, hsame⟩ := hsession
  obtain ⟨d₂, token, hissued⟩ := hproject d₁ hsame
  unfold issueRows
  rw [hcons]
  dsimp only
  rw [hfirst]
  dsimp only
  rw [hissued]
  exact List.cons_ne_nil _ _

/-! ## Tokens -/

/-- A token was issued to a Human, and was not accepted yet. -/
structure Owns (d : DiscoveryRun) (t : ℕ) (human : String) : Prop where
  issued : (t, human) ∈ d.issued
  lt : t < d.nextToken
  unaccepted : t ∉ d.accepted.map Prod.fst

/-- What is known of the tokens. -/
structure TokensKnown (d : DiscoveryRun) : Prop where
  sessions : ∀ selection ∈ d.sessions.values,
    d.Owns selection.token selection.humanParticipantID
  pages : ∀ page ∈ d.pages.values, d.Owns page.token page.human
  disjoint : ∀ selection ∈ d.sessions.values, ∀ page ∈ d.pages.values,
    selection.token ≠ page.token
  accepted : ∀ entry ∈ d.accepted, entry ∈ d.issued ∧ entry.1 < d.nextToken
  once : (d.accepted.map Prod.fst).Nodup

namespace TokensKnown

section

variable (h : d.TokensKnown)
include h

lemma lt_of_mem {t : ℕ} (ht : t ∈ d.accepted.map Prod.fst) : t < d.nextToken := by
  obtain ⟨entry, hentry, rfl⟩ := List.mem_map.mp ht
  exact (h.accepted entry hentry).2

lemma notMem_of_le {t : ℕ} (ht : d.nextToken ≤ t) : t ∉ d.accepted.map Prod.fst :=
  fun hmem => Nat.not_lt.mpr ht (h.lt_of_mem hmem)

lemma of_issues (hissues : d.Issues d') : d'.TokensKnown := by
  have howns : ∀ {t human}, d.Owns t human → d'.Owns t human := by
    intro t human howns
    refine ⟨hissues.issued _ howns.issued, Nat.lt_of_lt_of_le howns.lt hissues.nextToken, ?_⟩
    rw [hissues.accepted]
    exact howns.unaccepted
  refine ⟨fun selection hmem => ?_, fun page hmem => howns (h.pages page (hissues.pages page hmem)),
    fun selection hmem page hpage => ?_, ?_, ?_⟩
  · rcases hissues.sessions selection hmem with hold | ⟨hle, hlt, hnew⟩
    · exact howns (h.sessions selection hold)
    · refine ⟨hnew, hlt, ?_⟩
      rw [hissues.accepted]
      exact h.notMem_of_le hle
  · have hpage' := hissues.pages page hpage
    rcases hissues.sessions selection hmem with hold | ⟨hle, -, -⟩
    · exact h.disjoint selection hold page hpage'
    · exact Nat.ne_of_gt (Nat.lt_of_lt_of_le (h.pages page hpage').lt hle)
  · rw [hissues.accepted]
    intro entry hentry
    obtain ⟨hold, hlt⟩ := h.accepted entry hentry
    exact ⟨hissues.issued entry hold, Nat.lt_of_lt_of_le hlt hissues.nextToken⟩
  · rw [hissues.accepted]
    exact h.once

lemma of_accept {t : ℕ} {human : String} (howns : d.Owns t human)
    (hsessions : ∀ selection ∈ d.sessions.values, selection.token ≠ t)
    (hpages : ∀ page ∈ d.pages.values, page.token ≠ t) : (d.accept human (some t)).TokensKnown := by
  have hmap : (d.accept human (some t)).accepted.map Prod.fst =
      d.accepted.map Prod.fst ++ [t] := List.map_append
  have hkept : ∀ {t' human'}, d.Owns t' human' → t' ≠ t →
      (d.accept human (some t)).Owns t' human' := by
    intro t' human' howns' hne
    refine ⟨howns'.issued, howns'.lt, ?_⟩
    rw [hmap, List.mem_append, List.mem_singleton]
    rintro (hmem | heq)
    · exact howns'.unaccepted hmem
    · exact hne heq
  refine ⟨fun selection hmem => hkept (h.sessions selection hmem) (hsessions selection hmem),
    fun page hmem => hkept (h.pages page hmem) (hpages page hmem), h.disjoint,
    fun entry hentry => ?_, ?_⟩
  · rcases List.mem_append.mp hentry with hold | hnew
    · exact h.accepted entry hold
    · rw [List.mem_singleton.mp hnew]
      exact ⟨howns.issued, howns.lt⟩
  · rw [hmap, List.nodup_append]
    refine ⟨h.once, List.nodup_singleton t, fun t' ht' t'' ht'' heq => ?_⟩
    rw [List.mem_singleton.mp ht''] at heq
    rw [heq] at ht'
    exact howns.unaccepted ht'

lemma of_issuePageToken (human : String) (now : ℤ)
    (position : PagePosition) : (d.issuePageToken human now position).TokensKnown := by
  have hevicted := h.of_issues (Issues.of_evictPages d.pages.size d)
  unfold issuePageToken
  generalize evictPages d.pages.size d = e at hevicted
  have howns : ∀ {t human'}, e.Owns t human' → Owns { e with
      nextToken := e.nextToken + 1
      pages := e.pages.set ⟨e.nextToken, position, human, now + taskSessionTokenTTL⟩
      issued := e.issued ++ [(e.nextToken, human)] } t human' := fun howns =>
    ⟨List.mem_append_left _ howns.issued, Nat.lt_succ_of_lt howns.lt, howns.unaccepted⟩
  refine ⟨fun selection hmem => howns (hevicted.sessions selection hmem), fun page hmem => ?_,
    fun selection hmem page hpage => ?_, fun entry hentry => ?_, hevicted.once⟩
  · rcases KeyedMap.mem_set.mp hmem with rfl | ⟨hold, -⟩
    · refine ⟨List.mem_append_right _ (List.mem_singleton.mpr rfl), Nat.lt_succ_self _, ?_⟩
      exact hevicted.notMem_of_le (Nat.le_refl _)
    · exact howns (hevicted.pages page hold)
  · rcases KeyedMap.mem_set.mp hpage with rfl | ⟨hold, -⟩
    · exact Nat.ne_of_lt (hevicted.sessions selection hmem).lt
    · exact hevicted.disjoint selection hmem page hold
  · obtain ⟨hold, hlt⟩ := hevicted.accepted entry hentry
    exact ⟨List.mem_append_left _ hold, Nat.lt_succ_of_lt hlt⟩

lemma of_record (human : String) (pageToken : Option ℕ) (cwd : Option String)
    (page : ServedPage) (nextPageToken : Option ℕ) :
    (d.record human pageToken cwd page nextPageToken).TokensKnown := by
  have howns : ∀ {walks t human'}, d.Owns t human' → Owns { d with walks } t human' :=
    fun howns => ⟨howns.issued, howns.lt, howns.unaccepted⟩
  cases pageToken with
  | none | some t =>
    exact ⟨fun s hs => howns (h.sessions s hs), fun p hp => howns (h.pages p hp), h.disjoint,
      h.accepted, h.once⟩

lemma of_servePage (human : String) (now : ℤ) (pageToken : Option ℕ)
    (cwd : Option String) (f : Fetched) : (d.servePage human now pageToken cwd f).TokensKnown := by
  have hissued := h.of_issues
    (Issues.of_issueRows human now maxResidentSessionRows f.pending d)
  unfold servePage
  dsimp only
  split
  · exact (hissued.of_issuePageToken human now _).of_record human pageToken cwd _ _
  · exact hissued.of_record human pageToken cwd _ _

end

end TokensKnown

/-! ## Listings -/

section Listing

variable {list : String → Option (List ACPSessionInfo × String)} {root : String}
  {pages : List (List ACPSessionInfo)} {rows : List ACPSessionInfo} {served : ℕ}

/-- A listing goes on from a position: what was served and what is left is what is shown. -/
def Continues (list : String → Option (List ACPSessionInfo × String)) (root : String)
    (pages : List (List ACPSessionInfo)) (rows : List ACPSessionInfo) (served : ℕ) (cursor : String)
    (pending : List ACPSessionInfo) : Prop :=
  ∃ rest, Paging.Remaining list "" cursor rest ∧
    rows ++ pending ++ shownSessions root rest = shownSessions root pages ∧
    served + pending.length + rest.flatten.length ≤ pages.flatten.length

/-- A listing goes on from what was fetched. -/
def Gathers (list : String → Option (List ACPSessionInfo × String)) (root : String)
    (pages : List (List ACPSessionInfo)) (rows : List ACPSessionInfo) (served : ℕ) (f : Fetched) :
    Prop :=
  ∃ rest, Paging.Remaining list "" f.cursor rest ∧
    rows ++ f.pending ++ shownSessions root rest = shownSessions root pages ∧
    served + f.pending.length + rest.flatten.length ≤ pages.flatten.length ∧
    (f.pending = [] → served + f.pages.flatten.length + rest.flatten.length ≤ pages.flatten.length)

variable {f : Fetched}

lemma Gathers.of_pages {cursor : String} {rest : List (List ACPSessionInfo)}
    {failsAt : Option ℕ} (hrest : Paging.Pages list "" cursor rest)
    (hshown : rows ++ shownSessions root rest = shownSessions root pages)
    (hlength : served + rest.flatten.length ≤ pages.flatten.length)
    (hf : fetchSessions list root failsAt taskSessionMaxACPPagesPerList 0
      { pending := [], cursor } = some f) : Gathers list root pages rows served f := by
  obtain ⟨consumed, left, rfl, hremaining, hpages, hpending⟩ :=
    fetchSessions_spec hrest rfl (Or.inr ⟨by decide, rfl⟩) hf
  have hpages' : f.pages = consumed := hpages.trans (List.nil_append _)
  have hsplit : (consumed ++ left).flatten.length =
      consumed.flatten.length + left.flatten.length := by
    rw [List.flatten_append, List.length_append]
  refine ⟨left, hremaining, ?_, ?_, fun _ => ?_⟩
  · rw [← hshown, hpending, List.append_assoc]
    unfold shownSessions
    rw [List.flatMap_append]
  · have hle := @length_shownSessions_le root consumed
    rw [hpending]
    omega
  · rw [hpages']
    omega

lemma Gathers.of_start {provider : SessionProvider} {cwd : Option String}
    {failsAt : Option ℕ} (hpages : Paging.Pages (provider.list cwd) "" "" pages)
    (hf : fetch? provider root { cwd } failsAt = some f) :
    Gathers (provider.list cwd) root pages [] 0 f :=
  of_pages hpages (List.nil_append _) (Nat.le_of_eq (Nat.zero_add _)) hf

lemma Gathers.of_continues {provider : SessionProvider} {position : PagePosition}
    {failsAt : Option ℕ} (hposition : position.pending ≠ [] ∨ position.cursor ≠ "")
    (h : Continues (provider.list position.cwd) root pages rows served position.cursor
      position.pending) (hf : fetch? provider root position failsAt = some f) :
    Gathers (provider.list position.cwd) root pages rows served f := by
  obtain ⟨rest, hremaining, hshown, hlength⟩ := h
  unfold fetch? at hf
  by_cases hpending : position.pending = []
  · have hcursor := hposition.resolve_left fun hne => hne hpending
    rw [hpending] at hf hshown hlength
    rw [List.append_nil] at hshown
    exact of_pages (hremaining.more hcursor) hshown hlength hf
  · rw [fetchSessions_of_pending hpending] at hf
    cases hf
    exact ⟨rest, hremaining, hshown, hlength, fun heq => absurd heq hpending⟩

lemma Gathers.continues {count : ℕ} (h : Gathers list root pages rows served f)
    (hprogress : f.pending.take count ≠ [] ∨ f.pages.flatten ≠ [])
    (hrow : f.pending ≠ [] → f.pending.take count ≠ []) :
    Continues list root pages (rows ++ f.pending.take count) (served + 1) f.cursor
      (f.pending.drop count) := by
  obtain ⟨rest, hremaining, hshown, hlength, hnone⟩ := h
  refine ⟨rest, hremaining, ?_, ?_⟩
  · rw [List.append_assoc rows, List.take_append_drop]
    exact hshown
  · by_cases hpending : f.pending = []
    · have hconsumed := List.length_pos_of_ne_nil
        (hprogress.resolve_left fun hne => hne (by rw [hpending, List.take_nil]))
      have hle := hnone hpending
      rw [hpending, List.drop_nil, List.length_nil]
      omega
    · have htake := List.length_pos_of_ne_nil (hrow hpending)
      rw [List.length_take] at htake
      rw [List.length_drop]
      omega

lemma Gathers.ended {f : Fetched} {count : ℕ} (h : Gathers list root pages rows served f)
    (hdrop : f.pending.drop count = []) (hcursor : f.cursor = "") :
    rows ++ f.pending.take count = shownSessions root pages ∧
      served + 1 ≤ pages.flatten.length + 1 := by
  obtain ⟨rest, hremaining, hshown, hlength, -⟩ := h
  have htake : f.pending.take count = f.pending := by
    conv_rhs => rw [← List.take_append_drop count f.pending, hdrop, List.append_nil]
  rw [hremaining.ended hcursor] at hshown
  refine ⟨?_, by omega⟩
  rw [htake, ← hshown]
  exact (List.append_nil _).symm

end Listing

/-- What is known of the listings. -/
structure WalksKnown (provider : SessionProvider) (root : String) (d : DiscoveryRun) : Prop where
  -- A listing goes on from the position of its page, as long as there is one.
  goesOn : ∀ w ∈ d.walks, ∀ t page, w.nextPageToken = some t → d.pages.get? t = some page →
    page.human = w.human ∧ page.position.cwd = w.cwd ∧
      ∀ pages, Paging.Pages (provider.list w.cwd) "" "" pages →
        Continues (provider.list w.cwd) root pages w.rows w.served.length page.position.cursor
          page.position.pending
  ended : ∀ w ∈ d.walks, w.nextPageToken = none →
    ∀ pages, Paging.Pages (provider.list w.cwd) "" "" pages → w.rows = shownSessions root pages
  finite : ∀ w ∈ d.walks, ∀ pages, Paging.Pages (provider.list w.cwd) "" "" pages →
    w.served.length ≤ pages.flatten.length + 1
  progress : ∀ w ∈ d.walks, ∀ page ∈ w.served, page.hasMore = true →
    page.rows ≠ [] ∨ page.consumed ≠ []
  live : ∀ w ∈ d.walks, ∀ t, w.nextPageToken = some t →
    t ∈ d.retired ∨ ∃ page, d.pages.get? t = some page ∧ page.human = w.human
  fresh : ∀ w ∈ d.walks, ∀ t, w.nextPageToken = some t → t < d.nextToken
  waiting : ∀ page ∈ d.pages.values, page.position.pending ≠ [] ∨ page.position.cursor ≠ ""

namespace WalksKnown

variable {provider : SessionProvider} {root : String}

section

variable (h : d.WalksKnown provider root)
include h

lemma of_issues (hissues : d.Issues d') : d'.WalksKnown provider root := by
  have hget : ∀ t page, d'.pages.get? t = some page → d.pages.get? t = some page := by
    intro t page hget
    have hmem := hissues.pages page (KeyedMap.mem_of_get? hget)
    rw [← KeyedMap.key_of_get? hget]
    exact KeyedMap.get?_key hmem
  refine ⟨?_, ?_, ?_, ?_, ?_, ?_, fun page hmem => h.waiting page (hissues.pages page hmem)⟩
  · rw [hissues.walks]
    exact fun w hw t page hnext hpage => h.goesOn w hw t page hnext (hget t page hpage)
  · rw [hissues.walks]
    exact h.ended
  · rw [hissues.walks]
    exact h.finite
  · rw [hissues.walks]
    exact h.progress
  · rw [hissues.walks]
    intro w hw t hnext
    rcases h.live w hw t hnext with hretired | ⟨page, hpage, hhuman⟩
    · exact Or.inl (hissues.retired t hretired)
    · rcases hissues.kept t page hpage with hkept | hretired
      · exact Or.inr ⟨page, hkept, hhuman⟩
      · exact Or.inl hretired
  · rw [hissues.walks]
    exact fun w hw t hnext => Nat.lt_of_lt_of_le (h.fresh w hw t hnext) hissues.nextToken

lemma of_accept (human : String) (token : Option ℕ) :
    (d.accept human token).WalksKnown provider root :=
  ⟨h.goesOn, h.ended, h.finite, h.progress, h.live, h.fresh, h.waiting⟩

lemma of_issuePageToken (human : String) (now : ℤ)
    (position : PagePosition) (hposition : position.pending ≠ [] ∨ position.cursor ≠ "") :
    (d.issuePageToken human now position).WalksKnown provider root := by
  have hevicted := h.of_issues (Issues.of_evictPages d.pages.size d)
  unfold issuePageToken
  generalize evictPages d.pages.size d = e at hevicted
  have hget : ∀ {t}, t < e.nextToken → (e.pages.set (⟨e.nextToken, position, human,
      now + taskSessionTokenTTL⟩ : TaskSessionPage)).get? t = e.pages.get? t := by
    intro t hlt
    exact KeyedMap.get?_set_of_ne _ (Nat.ne_of_gt hlt)
  refine ⟨fun w hw t page hnext hpage => ?_, hevicted.ended, hevicted.finite, hevicted.progress,
    fun w hw t hnext => ?_, fun w hw t hnext => Nat.lt_succ_of_lt (hevicted.fresh w hw t hnext),
    fun page hmem => ?_⟩
  · exact hevicted.goesOn w hw t page hnext ((hget (hevicted.fresh w hw t hnext)).symm.trans hpage)
  · rcases hevicted.live w hw t hnext with hretired | ⟨page, hpage, hhuman⟩
    · exact Or.inl hretired
    · exact Or.inr ⟨page, (hget (hevicted.fresh w hw t hnext)).trans hpage, hhuman⟩
  · rcases KeyedMap.mem_set.mp hmem with rfl | ⟨hold, -⟩
    · exact hposition
    · exact hevicted.waiting page hold

end

/-- What was fetched goes on with the listing that a page belongs to, or starts one. -/
structure Serves (provider : SessionProvider) (root : String) (d : DiscoveryRun) (human : String)
    (pageToken : Option ℕ) (cwd : Option String) (f : Fetched) : Prop where
  first : pageToken = none → ∀ pages, Paging.Pages (provider.list cwd) "" "" pages →
    Gathers (provider.list cwd) root pages [] 0 f
  later : ∀ t, pageToken = some t → ∀ w ∈ d.walks, w.nextPageToken = some t →
    w.human = human ∧ w.cwd = cwd ∧
      ∀ pages, Paging.Pages (provider.list cwd) "" "" pages →
        Gathers (provider.list cwd) root pages w.rows w.served.length f

variable {pageToken : Option ℕ} {cwd : Option String} {human : String} {f : Fetched}

section

variable (h : d.WalksKnown provider root) (hserves : Serves provider root d human pageToken cwd f)
include h hserves

variable {nextPageToken : Option ℕ}

lemma mem_walks_record {page : ServedPage} {w : DiscoveryWalk}
    (hw : w ∈ (d.record human pageToken cwd page nextPageToken).walks) :
    w ∈ d.walks ∨ ∃ served, w = ⟨human, cwd, served ++ [page], nextPageToken⟩ ∧
      (∀ page ∈ served, page.hasMore = true → page.rows ≠ [] ∨ page.consumed ≠ []) ∧
      ∀ pages, Paging.Pages (provider.list cwd) "" "" pages →
        Gathers (provider.list cwd) root pages (served.flatMap ServedPage.rows) served.length
          f := by
  cases pageToken with
  | none =>
    rcases List.mem_append.mp hw with hold | hnew
    · exact Or.inl hold
    · refine Or.inr ⟨[], List.mem_singleton.mp hnew, fun page hpage => ?_, hserves.first rfl⟩
      cases hpage
  | some t =>
    obtain ⟨w₀, hw₀, rfl⟩ := List.mem_map.mp hw
    by_cases hnext : w₀.nextPageToken = some t
    · obtain ⟨hhuman, hcwd, hgathers⟩ := hserves.later t rfl w₀ hw₀ hnext
      refine Or.inr ⟨w₀.served, ?_, h.progress w₀ hw₀, hgathers⟩
      rw [if_pos hnext, ← hhuman, ← hcwd]
    · refine Or.inl ?_
      rw [if_neg hnext]
      exact hw₀

/-- A page is recorded. -/
lemma of_record {page : ServedPage}
    (hprogress : page.hasMore = true → page.rows ≠ [] ∨ page.consumed ≠ [])
    (hover : nextPageToken = none → ∀ pages rows served,
      Gathers (provider.list cwd) root pages rows served f →
        rows ++ page.rows = shownSessions root pages)
    (hmore : ∀ t, nextPageToken = some t → t < d.nextToken ∧ ∃ newPage,
      d.pages.get? t = some newPage ∧ newPage.human = human ∧ newPage.position.cwd = cwd ∧
        ∀ pages rows served, Gathers (provider.list cwd) root pages rows served f →
          Continues (provider.list cwd) root pages (rows ++ page.rows) (served + 1)
            newPage.position.cursor newPage.position.pending) :
    (d.record human pageToken cwd page nextPageToken).WalksKnown provider root := by
  have hpages : (d.record human pageToken cwd page nextPageToken).pages = d.pages := by
    cases pageToken <;> rfl
  have hretired : (d.record human pageToken cwd page nextPageToken).retired = d.retired := by
    cases pageToken <;> rfl
  have htoken : (d.record human pageToken cwd page nextPageToken).nextToken = d.nextToken := by
    cases pageToken <;> rfl
  have hrows : ∀ served : List ServedPage, (served ++ [page]).flatMap ServedPage.rows =
      served.flatMap ServedPage.rows ++ page.rows := by
    intro served
    rw [List.flatMap_append, List.flatMap_singleton]
  have hlength : ∀ served : List ServedPage, (served ++ [page]).length = served.length + 1 :=
    fun served => List.length_append
  refine ⟨fun w hw t newPage hnext hget => ?_, fun w hw hnext pages hlists => ?_,
    fun w hw pages hlists => ?_, fun w hw p hp => ?_, fun w hw t hnext => ?_,
    fun w hw t hnext => ?_, ?_⟩
  · rw [hpages] at hget
    rcases mem_walks_record h hserves hw with hold | ⟨served, rfl, -, hgathers⟩
    · exact h.goesOn w hold t newPage hnext hget
    · obtain ⟨-, newPage', hget', hhuman, hcwd, hcontinues⟩ := hmore t hnext
      cases hget'.symm.trans hget
      refine ⟨hhuman, hcwd, fun pages hlists => ?_⟩
      show Continues _ root pages ((served ++ [page]).flatMap ServedPage.rows)
        (served ++ [page]).length _ _
      rw [hrows, hlength]
      exact hcontinues pages _ _ (hgathers pages hlists)
  · rcases mem_walks_record h hserves hw with hold | ⟨served, rfl, -, hgathers⟩
    · exact h.ended w hold hnext pages hlists
    · exact (hrows served).trans (hover hnext pages _ _ (hgathers pages hlists))
  · rcases mem_walks_record h hserves hw with hold | ⟨served, rfl, -, hgathers⟩
    · exact h.finite w hold pages hlists
    · obtain ⟨rest, -, -, hle, -⟩ := hgathers pages hlists
      show (served ++ [page]).length ≤ _
      rw [hlength]
      omega
  · rcases mem_walks_record h hserves hw with hold | ⟨served, rfl, hserved, -⟩
    · exact h.progress w hold p hp
    · rcases List.mem_append.mp hp with hold | hnew
      · exact hserved p hold
      · rw [List.mem_singleton.mp hnew]
        exact hprogress
  · rw [hpages, hretired]
    rcases mem_walks_record h hserves hw with hold | ⟨served, rfl, -, -⟩
    · exact h.live w hold t hnext
    · obtain ⟨-, newPage, hget, hhuman, -, -⟩ := hmore t hnext
      exact Or.inr ⟨newPage, hget, hhuman⟩
  · rw [htoken]
    rcases mem_walks_record h hserves hw with hold | ⟨served, rfl, -, -⟩
    · exact h.fresh w hold t hnext
    · exact (hmore t hnext).1
  · rw [hpages]
    exact h.waiting

lemma of_servePage {now : ℤ} (hroom : d.hasRoom human f = true)
    (hconsumes : f.pending ≠ [] ∨ f.cursor = "" ∨ f.pages.flatten ≠ []) :
    (d.servePage human now pageToken cwd f).WalksKnown provider root := by
  have hissues := Issues.of_issueRows human now maxResidentSessionRows f.pending d
  have hissued := h.of_issues hissues
  have hrow : f.pending ≠ [] → f.pending.take
      (issueRows human now maxResidentSessionRows f.pending d).2.length ≠ [] := by
    intro hne
    have hrows : (issueRows human now maxResidentSessionRows f.pending d).2 ≠ [] :=
      issueRows_ne_nil (by decide) hne hroom
    have hissued := List.length_pos_of_ne_nil hrows
    have hpending := List.length_pos_of_ne_nil hne
    rw [← List.length_pos_iff, List.length_take]
    omega
  have hserves' : Serves provider root (issueRows human now maxResidentSessionRows f.pending d).1
      human pageToken cwd f := by
    refine ⟨hserves.first, ?_⟩
    rw [hissues.walks]
    exact hserves.later
  unfold servePage
  dsimp only
  generalize issueRows human now maxResidentSessionRows f.pending d = issued at *
  split
  · next hmore =>
    rw [Bool.or_eq_true, decide_eq_true_eq, decide_eq_true_eq] at hmore
    have hprogress : f.pending.take issued.2.length ≠ [] ∨ f.pages.flatten ≠ [] := by
      by_cases hpending : f.pending = []
      · rcases hmore with hdrop | hcursor
        · rw [hpending, List.drop_nil] at hdrop
          exact absurd rfl hdrop
        · rcases hconsumes with hne | hdone | hconsumed
          · exact absurd hpending hne
          · exact absurd hdone hcursor
          · exact Or.inr hconsumed
      · exact Or.inl (hrow hpending)
    have hadded := hissued.of_issuePageToken human now
      { cwd, cursor := f.cursor, pending := f.pending.drop issued.2.length } hmore
    refine hadded.of_record (f := f) ⟨hserves'.first, ?_⟩ (fun _ => hprogress)
      (fun heq => by cases heq) ?_
    · unfold issuePageToken
      dsimp only
      rw [(Issues.of_evictPages issued.1.pages.size issued.1).walks]
      exact hserves'.later
    · intro t heq
      cases heq
      refine ⟨Nat.lt_succ_self _, _, KeyedMap.get?_set_self _ _, rfl, rfl,
        fun pages rows served hgathers => ?_⟩
      exact hgathers.continues hprogress hrow
  · next hlast =>
    rw [Bool.or_eq_true, decide_eq_true_eq, decide_eq_true_eq, not_or, not_not, not_not] at hlast
    refine hissued.of_record hserves' (fun heq => ?_) (fun _ pages rows served hgathers => ?_)
      fun t heq => by cases heq
    · rw [Bool.or_eq_true, decide_eq_true_eq, decide_eq_true_eq] at heq
      exact absurd heq (not_or.mpr ⟨not_not.mpr hlast.1, not_not.mpr hlast.2⟩)
    · exact (hgathers.ended hlast.1 hlast.2).1

end

end WalksKnown

/-! ## Steps -/

/-- The invariant of a run. -/
structure DiscoveryKnown (provider : SessionProvider) (root : String) (d : DiscoveryRun) :
    Prop where
  tokens : d.TokensKnown
  walks : d.WalksKnown provider root

namespace DiscoveryKnown

variable {provider : SessionProvider} {root : String}

lemma pagesThrough (h : d.DiscoveryKnown provider root) (hdistinct : provider.Distinct root) :
    d.PagesThrough provider root where
  progress := h.walks.progress
  finite := h.walks.finite
  complete := by
    intro w hw hnext pages hlists
    rw [h.walks.ended w hw hnext pages hlists]
    exact completeListing_shownSessions (hdistinct w.cwd pages hlists)
  live := h.walks.live
  once := h.tokens.once
  bound := fun entry hentry => (h.tokens.accepted entry hentry).1

lemma of_issues (h : d.DiscoveryKnown provider root) (hissues : d.Issues d') :
    d'.DiscoveryKnown provider root :=
  ⟨h.tokens.of_issues hissues, h.walks.of_issues hissues⟩

lemma accept_none (d : DiscoveryRun) (human : String) : d.accept human none = d := by
  unfold accept
  rw [Option.map_none, Option.toList_none, List.append_nil]

variable {control : SessionListControl}

section

variable (h : d.DiscoveryKnown provider root)
include h

lemma of_acceptPage {now : ℤ}
    {position : PagePosition} (hposition : d.position? now control = some position) :
    ((d.takePageToken control.pageToken).accept control.humanParticipantID
      control.pageToken).DiscoveryKnown provider root := by
  have htaken := h.of_issues (Issues.of_takePageToken d control.pageToken)
  refine ⟨?_, htaken.walks.of_accept _ _⟩
  unfold position? at hposition
  cases htoken : control.pageToken with
  | none =>
    rw [htoken] at htaken
    rw [accept_none]
    exact htaken.tokens
  | some t =>
    rw [htoken] at htaken hposition
    dsimp only at hposition
    obtain ⟨page, hpage, -⟩ := Option.map_eq_some_iff.mp hposition
    obtain ⟨hget, hhuman⟩ := Option.filter_eq_some_iff.mp hpage
    rw [decide_eq_true_eq] at hhuman
    have hmem := KeyedMap.mem_of_get? hget
    have hkey : page.token = t := KeyedMap.key_of_get? hget
    have howns := h.tokens.pages page hmem
    rw [hkey, hhuman] at howns
    refine htaken.tokens.of_accept ⟨howns.issued, howns.lt, howns.unaccepted⟩
      (fun selection hselection => ?_) fun page' hpage' => ?_
    · rw [← hkey]
      exact h.tokens.disjoint selection hselection page hmem
    · exact (KeyedMap.mem_erase.mp hpage').2

lemma serves {now : ℤ} {position : PagePosition} {failsAt : Option ℕ} {f : Fetched}
    (hposition : d.position? now control = some position)
    (hf : fetch? provider root position failsAt = some f) :
    WalksKnown.Serves provider root d control.humanParticipantID control.pageToken position.cwd
      f := by
  unfold position? at hposition
  constructor
  · intro htoken pages hlists
    rw [htoken] at hposition
    dsimp only at hposition
    -- A first page is filtered by a directory, or not.
    cases hproject : control.projectToken with
    | none =>
      rw [hproject] at hposition
      cases hposition
      exact Gathers.of_start hlists hf
    | some t =>
      rw [hproject] at hposition
      dsimp only at hposition
      obtain ⟨project, -, rfl⟩ := Option.map_eq_some_iff.mp hposition
      exact Gathers.of_start hlists hf
  · intro t htoken w hw hnext
    rw [htoken] at hposition
    dsimp only at hposition
    obtain ⟨page, hpage, rfl⟩ := Option.map_eq_some_iff.mp hposition
    obtain ⟨hget, hhuman⟩ := Option.filter_eq_some_iff.mp hpage
    rw [decide_eq_true_eq] at hhuman
    obtain ⟨hsame, hcwd, hcontinues⟩ := h.walks.goesOn w hw t page hnext hget
    refine ⟨hsame.symm.trans hhuman, hcwd.symm, fun pages hlists => ?_⟩
    rw [hcwd] at hlists
    refine Gathers.of_continues (h.walks.waiting page (KeyedMap.mem_of_get? hget)) ?_ hf
    have hcontinue := hcontinues pages hlists
    rw [← hcwd] at hcontinue
    exact hcontinue

lemma of_listTaskSessions {now : ℤ} {failsAt : Option ℕ}
    (hguard : d.findsRoom provider root (.list control now failsAt) = true) :
    (d.listTaskSessions now provider root control failsAt).DiscoveryKnown provider root := by
  have hpruned := h.of_issues (Issues.of_pruneTaskSessionCache d now)
  unfold findsRoom at hguard
  unfold listTaskSessions
  dsimp only at hguard ⊢
  generalize d.pruneTaskSessionCache now = d₁ at hpruned hguard ⊢
  split
  · next hcurrent =>
    rw [hcurrent, Bool.not_true, Bool.false_or] at hguard
    cases hposition : d₁.position? now control with
    | none => exact hpruned.of_issues (Issues.of_takePageToken d₁ control.pageToken)
    | some position =>
      have haccepted := hpruned.of_acceptPage hposition
      rw [hposition, Option.all_some] at hguard
      dsimp only
      cases hf : fetch? provider root position failsAt with
      | none => exact haccepted
      | some f =>
        rw [hf, Option.all_some, Bool.and_eq_true, Bool.or_eq_true, Bool.or_eq_true,
          decide_eq_true_eq, decide_eq_true_eq, decide_eq_true_eq, or_assoc] at hguard
        obtain ⟨hfirst, hlater⟩ := hpruned.serves hposition hf
        have hserves : WalksKnown.Serves provider root
            ((d₁.takePageToken control.pageToken).accept control.humanParticipantID
              control.pageToken) control.humanParticipantID control.pageToken position.cwd f := by
          refine ⟨hfirst, ?_⟩
          show ∀ t, _ → ∀ w ∈ (d₁.takePageToken control.pageToken).walks, _
          rw [(Issues.of_takePageToken d₁ control.pageToken).walks]
          exact hlater
        have hroom : ((d₁.takePageToken control.pageToken).accept control.humanParticipantID
            control.pageToken).hasRoom control.humanParticipantID f = true := by
          rw [← hguard.1]
          cases control.pageToken <;> rfl
        exact ⟨haccepted.tokens.of_servePage _ now _ _ f,
          haccepted.walks.of_servePage hserves hroom hguard.2⟩
  · exact h

lemma of_prepareTaskSession (human : String) (now : ℤ) (sessionToken : Option ℕ) :
    (d.prepareTaskSession human now sessionToken).DiscoveryKnown provider root := by
  have hpruned := h.of_issues (Issues.of_pruneTaskSessionCache d now)
  unfold prepareTaskSession
  dsimp only
  generalize d.pruneTaskSessionCache now = d₁ at hpruned ⊢
  cases sessionToken with
  | none => exact hpruned
  | some t =>
    have htaken : DiscoveryKnown provider root { d₁ with sessions := d₁.sessions.erase t } := by
      refine hpruned.of_issues ⟨rfl, rfl, Nat.le_refl _, fun _ h => h, fun _ h => h,
        fun selection hmem => Or.inl (KeyedMap.mem_erase.mp hmem).1, fun _ h => h,
        fun _ _ h => Or.inl h⟩
    dsimp only
    cases hget : d₁.sessions.get? t with
    | none => exact htaken
    | some selection =>
      dsimp only
      split
      · next hhuman =>
        have hmem := KeyedMap.mem_of_get? hget
        have hkey : selection.token = t := KeyedMap.key_of_get? hget
        have howns := hpruned.tokens.sessions selection hmem
        rw [hkey, hhuman.2.1] at howns
        refine ⟨htaken.tokens.of_accept ⟨howns.issued, howns.lt, howns.unaccepted⟩
          (fun selection' hselection' => (KeyedMap.mem_erase.mp hselection').2)
          fun page hpage heq => ?_, htaken.walks.of_accept _ _⟩
        exact hpruned.tokens.disjoint selection hmem page hpage (hkey.trans heq.symm)
      · exact htaken

lemma of_next {label : DiscoveryStep} (hguard : d.findsRoom provider root label = true)
    (hstep : d.next? provider root label = some d') : d'.DiscoveryKnown provider root := by
  cases label with
  | roster humans =>
    cases hstep
    exact h.of_issues ⟨rfl, rfl, Nat.le_refl _, fun _ h => h, fun _ h => h, fun _ h => Or.inl h,
      fun _ h => h, fun _ _ h => Or.inl h⟩
  | list control now failsAt =>
    cases hstep
    exact h.of_listTaskSessions hguard
  | prepare human sessionToken now =>
    cases hstep
    exact h.of_prepareTaskSession human now sessionToken
  | cancel now =>
    cases hstep
    exact h.of_issues (Issues.of_pruneTaskSessionCache d now)

end

lemma init : DiscoveryKnown provider root {} := by
  have hnil : ∀ {α : Type} {P : α → Prop} (a : α), a ∈ ([] : List α) → P a :=
    fun _ hmem => absurd hmem List.not_mem_nil
  exact ⟨⟨hnil, hnil, hnil, hnil, List.nodup_nil⟩, ⟨hnil, hnil, hnil, hnil, hnil, hnil, hnil⟩⟩

end DiscoveryKnown

end DiscoveryRun

/-! ## Runs -/

/-- With a provider that does not repeat a session on another page, and as long as there is room
for a row, paging goes through. -/
theorem pagesThrough_of_findsRoom {provider : SessionProvider} {root : String} {d : DiscoveryRun}
    (hdistinct : provider.Distinct root)
    (h : (discoverySystem provider root).ReachableWhen
      (fun d label => d.findsRoom provider root label = true) d) :
    d.PagesThrough provider root := by
  refine DiscoveryRun.DiscoveryKnown.pagesThrough (h.invariant ?_ ?_) hdistinct
  · rintro _ rfl
    exact DiscoveryRun.DiscoveryKnown.init
  · exact fun _ _ _ hknown hguard hstep => hknown.of_next hguard hstep

/-- A provider with two pages. -/
def SessionProvider.twoPages (first second : List ACPSessionInfo) : SessionProvider where
  list _ cursor :=
    if cursor = "" then some (first, "second")
    else if cursor = "second" then some (second, "")
    else none
  finite _ := ⟨[first, second], .more rfl (by decide) (.last rfl)⟩

lemma SessionProvider.eq_of_twoPages {first second : List ACPSessionInfo} {cwd : Option String}
    {pages : List (List ACPSessionInfo)}
    (h : Paging.Pages ((twoPages first second).list cwd) "" "" pages) : pages = [first, second] :=
  h.unique (.more rfl (by decide) (.last rfl))

/-- A session. -/
def someSession (id : String) : ACPSessionInfo where
  sessionID := id
  cwd := "/project"

/-- The labels under which a Human follows a listing of two pages. -/
def followsTwoPages : List DiscoveryStep :=
  [.roster ["alice"], .list { humanParticipantID := "alice" } 0 none,
    .list { humanParticipantID := "alice", pageToken := some 2 } 1 none]

/-- A Human follows a listing of two pages to its end. -/
theorem pagesThrough_twoPages : ∃ d : DiscoveryRun,
    TransitionSystem.runWhen?
      (fun d => DiscoveryRun.next? d (.twoPages [someSession "a"] [someSession "b"]) "")
      (fun d => d.findsRoom (.twoPages [someSession "a"] [someSession "b"]) "") {}
      followsTwoPages = some d ∧
      d.walks.map DiscoveryWalk.rows = [[someSession "a", someSession "b"]] ∧
        d.PagesThrough (.twoPages [someSession "a"] [someSession "b"]) "" := by
  have hrun : (TransitionSystem.runWhen?
      (fun d => DiscoveryRun.next? d (.twoPages [someSession "a"] [someSession "b"]) "")
      (fun d => d.findsRoom (.twoPages [someSession "a"] [someSession "b"]) "") {}
      followsTwoPages).any (fun d =>
        decide (d.walks.map DiscoveryWalk.rows = [[someSession "a", someSession "b"]])) = true := by
    decide +kernel
  obtain ⟨d, hd, hrows⟩ := (Option.any_eq_true _ _).mp hrun
  refine ⟨d, hd, of_decide_eq_true hrows, pagesThrough_of_findsRoom ?_ ?_⟩
  · intro cwd pages hlists
    rw [SessionProvider.eq_of_twoPages hlists, List.pairwise_pair]
    intro info hinfo info' hinfo' _ _
    rw [List.mem_singleton.mp hinfo, List.mem_singleton.mp hinfo']
    decide
  · exact TransitionSystem.reachableWhen_of_runWhen (fun _ _ _ h => h) rfl hd

/-- Paging does not go through with every provider. A session that is on two pages of the provider
is shown twice. -/
theorem not_pagesThrough_repeated : ¬ ∀ provider root d,
    (discoverySystem provider root).Reachable d → d.PagesThrough provider root := by
  intro hall
  have hrun : (TransitionSystem.runWhen?
      (fun d => DiscoveryRun.next? d (.twoPages [someSession "a"] [someSession "a"]) "")
      (fun _ _ => true) {} followsTwoPages).any (fun d =>
        d.walks.any fun w => w.nextPageToken = none &&
          w.rows = [someSession "a", someSession "a"]) = true := by
    decide +kernel
  obtain ⟨d, hd, hwalk⟩ := (Option.any_eq_true _ _).mp hrun
  obtain ⟨w, hw, hboth⟩ := List.any_eq_true.mp hwalk
  rw [Bool.and_eq_true, decide_eq_true_eq, decide_eq_true_eq] at hboth
  have hthrough := hall _ _ d (TransitionSystem.reachable_of_runWhen (fun _ _ _ h => h) rfl hd)
  have hcomplete := hthrough.complete w hw hboth.1 _ (.more rfl (by decide) (.last rfl))
  have hnodup := hcomplete.nodup
  rw [hboth.2] at hnodup
  exact absurd hnodup (by decide)

/-- The names of a dozen sessions. -/
def dozenSessions : List ACPSessionInfo :=
  ["a", "b", "c", "d", "e", "f", "g", "h", "i", "j", "k", "l"].map someSession

lemma not_pagesThrough_full : ¬ ∀ provider root d, provider.Distinct root →
    (discoverySystem provider root).Reachable d → d.PagesThrough provider root := by
  intro hall
  have hrun : (TransitionSystem.runWhen?
      (fun d => DiscoveryRun.next? d (.twoPages dozenSessions []) "") (fun _ _ => true) {}
      (.roster ["alice"] :: List.replicate 7 (.list { humanParticipantID := "alice" } 0 none) ++
        [.list { humanParticipantID := "alice", pageToken := some 71 } 1 none])).any (fun d =>
        d.walks.any fun w => w.served.any fun page =>
          page.hasMore && page.rows = [] && page.consumed = []) = true := by
    decide +kernel
  obtain ⟨d, hd, hwalk⟩ := (Option.any_eq_true _ _).mp hrun
  obtain ⟨w, hw, hserved⟩ := List.any_eq_true.mp hwalk
  obtain ⟨page, hpage, hstuck⟩ := List.any_eq_true.mp hserved
  rw [Bool.and_eq_true, Bool.and_eq_true, decide_eq_true_eq, decide_eq_true_eq] at hstuck
  have hdistinct : (SessionProvider.twoPages dozenSessions []).Distinct "" := by
    intro cwd pages hlists
    rw [SessionProvider.eq_of_twoPages hlists, List.pairwise_pair]
    exact fun _ _ _ hinfo' => absurd hinfo' List.not_mem_nil
  have hthrough := hall _ _ d hdistinct
    (TransitionSystem.reachable_of_runWhen (fun _ _ _ h => h) rfl hd)
  rcases hthrough.progress w hw page hpage hstuck.1.1 with hrows | hconsumed
  · exact hrows hstuck.1.2
  · exact hconsumed hstuck.2

end Free4Chat
