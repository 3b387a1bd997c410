import CertSteward.Proofs.Client.Addresses
import CertSteward.Proofs.Client.Listing
import CertSteward.Proofs.Url.Forms
import Mathlib.Data.List.Nodup

/-!
# What a listing returns

A listing asks for the first page without a token and for every further page
with the token that the page before it names, and it stops at the first page
that names no other one. It returns the items of all pages in their order, or
the failure of the page that could not be had. Where the service answers by the
page token alone, no page of a listing that returns was asked for twice.
-/

namespace CertSteward.Client

set_option autoImplicit false

open CertSteward.Http (Transport Request Answer)

variable {State : Type} {client : Client} {project : String}

def IsLast (pageToken : Option String) (page : CertificateList) : Prop :=
  page.nextPageToken = none ∨ page.nextPageToken = some "" ∨ page.nextPageToken = pageToken

/-- Exchanges that bring pages of which none is the last, each asked for with the token that the
page before it names: from the page of one token to that of another. -/
inductive Leads (client : Client) (project : String) :
    Option String → List (Request × Answer) → List CertificateList → Option String → Prop
  | here (pageToken : Option String) : Leads client project pageToken [] [] pageToken
  | page {pageToken behind : Option String} {answer : Answer} {page : CertificateList}
      {exchanges : List (Request × Answer)} {pages : List CertificateList}
      (brought : answer.Grants CertificateList.decoder page) (more : ¬ IsLast pageToken page)
      (later : Leads client project page.nextPageToken exchanges pages behind) :
      Leads client project pageToken ((client.pageRequest project pageToken, answer) :: exchanges)
        (page :: pages) behind

/-- The exchanges of a listing of at most so many pages, and its result, from the page of a token
on and behind the items gathered before. -/
inductive Course (client : Client) (project : String) (rounds : Nat) (pageToken : Option String)
    (gathered : List Certificate) :
    List (Request × Answer) → Option (Except ApiError CertificateList) → Prop
  /-- All pages that were asked for lead to another one. -/
  | unended {exchanges : List (Request × Answer)} {pages : List CertificateList}
      {behind : Option String} (leads : Leads client project pageToken exchanges pages behind)
      (count : pages.length = rounds) :
      Course client project rounds pageToken gathered exchanges none
  /-- The pages lead to the last one. -/
  | complete {exchanges : List (Request × Answer)} {pages : List CertificateList}
      {behind : Option String} {answer : Answer} {page : CertificateList}
      (leads : Leads client project pageToken exchanges pages behind)
      (count : pages.length < rounds) (brought : answer.Grants CertificateList.decoder page)
      (last : IsLast behind page) :
      Course client project rounds pageToken gathered
        (exchanges ++ [(client.pageRequest project behind, answer)])
        (some (.ok ⟨gathered ++ (pages ++ [page]).flatMap CertificateList.items, none⟩))
  /-- The pages lead to one that cannot be had. -/
  | failed {exchanges : List (Request × Answer)} {pages : List CertificateList}
      {behind : Option String} {answer : Answer} {error : ApiError}
      (leads : Leads client project pageToken exchanges pages behind)
      (count : pages.length < rounds)
      (refused : interpret CertificateList.decoder answer = .error error) :
      Course client project rounds pageToken gathered
        (exchanges ++ [(client.pageRequest project behind, answer)]) (some (.error error))

theorem Leads.complete {pageToken behind : Option String} {exchanges : List (Request × Answer)}
    {pages : List CertificateList} (leads : Leads client project pageToken exchanges pages behind)
    (gathered : List Certificate) {rounds : Nat} (count : pages.length < rounds) {answer : Answer}
    {page : CertificateList} (brought : answer.Grants CertificateList.decoder page)
    (last : IsLast behind page) :
    Course client project rounds pageToken gathered
      (exchanges ++ [(client.pageRequest project behind, answer)])
      (some (.ok ⟨gathered ++ (pages ++ [page]).flatMap CertificateList.items, none⟩)) :=
  .complete leads count brought last

theorem next_page_of_last {pageToken : Option String} {page : CertificateList}
    (last : IsLast pageToken page) :
    nextPage pageToken page = .done ∨ ∃ token, nextPage pageToken page = .repeated token := by
  unfold nextPage
  cases named : page.nextPageToken with
  | none => exact .inl rfl
  | some token =>
      by_cases blank : token.isEmpty
      · exact .inl (if_pos blank)
      · have same : pageToken = some token := by
          rw [IsLast, named] at last
          obtain missing | empty | same := last
          · contradiction
          · rw [Option.some.inj empty] at blank
            exact absurd rfl blank
          · exact same.symm
        refine .inr ⟨token, ?_⟩
        dsimp only
        rw [if_neg blank, if_pos same]

theorem next_page_of_more {pageToken : Option String} {page : CertificateList}
    (more : ¬ IsLast pageToken page) :
    ∃ token, page.nextPageToken = some token ∧ nextPage pageToken page = .page token := by
  unfold nextPage
  cases named : page.nextPageToken with
  | none => exact absurd (.inl named) more
  | some token =>
      have filled : ¬ token.isEmpty = true := by
        intro blank
        rw [String.isEmpty_iff.mp blank] at named
        exact more (.inr (.inl named))
      have other : pageToken ≠ some token := by
        intro same
        rw [← same] at named
        exact more (.inr (.inr named))
      refine ⟨token, rfl, ?_⟩
      dsimp only
      rw [if_neg filled, if_neg other]

/-- A page in front of a course. -/
theorem Course.cons {rounds : Nat} {pageToken : Option String} {gathered : List Certificate}
    {answer : Answer} {page : CertificateList} {made : List (Request × Answer)}
    {result : Option (Except ApiError CertificateList)}
    (brought : answer.Grants CertificateList.decoder page) (more : ¬ IsLast pageToken page)
    (course : Course client project rounds page.nextPageToken (gathered ++ page.items) made
      result) :
    Course client project (rounds + 1) pageToken gathered
      ((client.pageRequest project pageToken, answer) :: made) result := by
  cases course with
  | unended leads count =>
      exact .unended (.page brought more leads) (congrArg Nat.succ count)
  | complete leads count granted last =>
      have whole := (Leads.page brought more leads).complete gathered (Nat.succ_lt_succ count)
        granted last
      rwa [List.cons_append, List.cons_append, List.flatMap_cons, ← List.append_assoc] at whole
  | failed leads count refused =>
      exact .failed (.page brought more leads) (Nat.succ_lt_succ count) refused

def Given (transport : Transport State) (exchanges : List (Request × Answer)) : Prop :=
  ∀ exchange ∈ exchanges, ∃ state, exchange.2 = (transport.exchange exchange.1 state).1

theorem sendable_page (client : Client) (project : String) (pageToken : Option String) :
    isSendable (client.pageRequest project pageToken) = client.canSend := by
  rw [canSend, isSendable, isSendable]
  simp only [pageRequest, request, page_scheme]

theorem send_page_recorded (project : String) (transport : Transport State)
    (can : client.canSend = true) (pageToken : Option String) (state : State)
    (past : List (Request × Answer)) :
    send transport.recorded CertificateList.decoder (client.pageRequest project pageToken)
        (state, past) =
      (interpret CertificateList.decoder
          (transport.exchange (client.pageRequest project pageToken) state).1,
        requestEntry (client.pageRequest project pageToken) ::
          answerEntries (transport.exchange (client.pageRequest project pageToken) state).1,
        ((transport.exchange (client.pageRequest project pageToken) state).2,
          past ++ [(client.pageRequest project pageToken,
            (transport.exchange (client.pageRequest project pageToken) state).1)])) := by
  unfold send
  rw [if_pos ((sendable_page client project pageToken).trans can)]
  rfl

/-- A listing takes its course, whatever the transport answers. -/
theorem list_from_course (project : String) (transport : Transport State)
    (can : client.canSend = true) (rounds : Nat) (pageToken : Option String)
    (gathered : List Certificate) (state : State) (past : List (Request × Answer)) :
    ∃ made,
      (client.listFrom transport.recorded project rounds pageToken gathered
        (state, past)).2.2 = past ++ made ∧
      Given transport made ∧
      Course client project rounds pageToken gathered made
        (client.listFrom transport.recorded project rounds pageToken gathered
          (state, past)).1.result := by
  induction rounds generalizing pageToken gathered state past with
  | zero =>
      refine ⟨[], (List.append_nil past).symm, ?_, .unended (.here pageToken) rfl⟩
      exact fun _ member => absurd member List.not_mem_nil
  | succ rounds ih =>
      have sent := send_page_recorded project transport can pageToken state past
      unfold pageRequest at sent
      simp only [listFrom, sent]
      generalize reached : transport.exchange
        (client.request .get (client.pageUrl project pageToken) none) state = exchanged
      have given : Given transport
          [(client.request .get (client.pageUrl project pageToken) none, exchanged.1)] := by
        intro exchange member
        rw [List.mem_singleton.mp member]
        exact ⟨state, congrArg Prod.fst reached.symm⟩
      cases result : interpret CertificateList.decoder exchanged.1 with
      | error error =>
          exact ⟨_, rfl, given, .failed (.here pageToken) (Nat.succ_pos rounds) result⟩
      | ok page =>
          have brought := (interpret_eq_ok_iff _ _ _).mp result
          dsimp only
          by_cases last : IsLast pageToken page
          · have course : Course client project (rounds + 1) pageToken gathered
                [(client.pageRequest project pageToken, exchanged.1)]
                (some (.ok ⟨gathered ++ page.items, none⟩)) := by
              have leads : Leads client project pageToken [] [] pageToken := .here pageToken
              simpa using leads.complete gathered (Nat.succ_pos rounds) brought last
            obtain done | ⟨token, repeated⟩ := next_page_of_last last
            · rw [done]
              exact ⟨_, rfl, given, course⟩
            · rw [repeated]
              exact ⟨_, rfl, given, course⟩
          · obtain ⟨token, named, goes⟩ := next_page_of_more last
            rw [goes]
            dsimp only
            obtain ⟨made, grown, others, course⟩ := ih (some token) (gathered ++ page.items)
              exchanged.2 (past ++
                [(client.request .get (client.pageUrl project pageToken) none, exchanged.1)])
            rw [← named] at grown course ⊢
            refine ⟨_, ?_, ?_, course.cons brought last⟩
            · rw [grown, List.append_assoc, List.singleton_append]
              rfl
            · intro exchange member
              obtain first | later := List.mem_cons.mp member
              · exact given exchange (List.mem_singleton.mpr first)
              · exact others exchange later

theorem resource_query (client : Client) (project : String) (names : List String) :
    (client.resourceUrl project names).query = client.baseUrl.query := by
  unfold resourceUrl Url.extend
  split <;> rfl

/-- The query of a page has the pairs of the service's address, and behind them the token. -/
theorem pairs_page_url (client : Client) (project : String) (pageToken : Option String) :
    (client.pageUrl project pageToken).pairs =
      client.baseUrl.pairs ++
        pageToken.toList.map fun token => (some "pageToken", some token) := by
  have resource : (client.resourceUrl project [certificates]).pairs = client.baseUrl.pairs := by
    rw [Url.pairs, resource_query, Url.pairs]
  unfold pageUrl
  cases pageToken with
  | none =>
      dsimp only
      rw [resource, Option.toList_none, List.map_nil, List.append_nil]
  | some token =>
      dsimp only
      rw [Url.pairs_append_query, resource]
      rfl

theorem page_query_kept (client : Client) (project : String) (pageToken : Option String) :
    ∃ added, (client.pageUrl project pageToken).queryText =
      client.baseUrl.queryText ++ added := by
  have resource : (client.resourceUrl project [certificates]).queryText =
      client.baseUrl.queryText := by
    rw [Url.queryText, resource_query, Url.queryText]
  rw [← resource]
  unfold pageUrl
  cases pageToken with
  | none => exact ⟨"", String.append_empty.symm⟩
  | some token => exact Url.append_query_text _ _ _

theorem page_request_injective (client : Client) (project : String) :
    Function.Injective (client.pageRequest project) := by
  intro left right same
  have urls : client.pageUrl project left = client.pageUrl project right :=
    congrArg Request.url same
  have pairs := congrArg Url.pairs urls
  rw [pairs_page_url, pairs_page_url] at pairs
  have tokens := List.append_cancel_left pairs
  cases left <;> cases right <;> simp_all

def asked (pageToken : Option String) (pages : List CertificateList) : List (Option String) :=
  pageToken :: pages.map CertificateList.nextPageToken

theorem Leads.requests {pageToken behind : Option String} {exchanges : List (Request × Answer)}
    {pages : List CertificateList} (leads : Leads client project pageToken exchanges pages behind)
    (answer : Answer) :
    (exchanges ++ [(client.pageRequest project behind, answer)]).map Prod.fst =
      (asked pageToken pages).map (client.pageRequest project) := by
  induction leads with
  | here pageToken => rfl
  | page brought more later ih =>
      rw [List.cons_append, List.map_cons, ih]
      rfl

/-- Where the service answers by the page token alone, a listing walks from page to page. -/
theorem Leads.walks {transport : Transport State} {answers : Option String → Answer}
    (byToken : client.AnswersByToken project transport answers) (can : client.canSend = true)
    {pageToken behind : Option String} {exchanges : List (Request × Answer)}
    {pages : List CertificateList} (leads : Leads client project pageToken exchanges pages behind)
    (given : Given transport exchanges) (step : Nat) (early : step ≤ pages.length) :
    walk (client.pageAfter project answers) step pageToken = (asked pageToken pages)[step]? := by
  induction leads generalizing step with
  | here pageToken =>
      rw [Nat.le_zero.mp early]
      rfl
  | @page pageToken behind answer page exchanges pages brought more later ih =>
      cases step with
      | zero => rfl
      | succ step =>
          have reply : answer = answers pageToken := by
            obtain ⟨state, same⟩ := given _ List.mem_cons_self
            exact same.trans (byToken pageToken state)
          have sendable := (sendable_page client project pageToken).trans can
          have found : client.pageFor project answers pageToken = .ok page := by
            rw [pageFor, if_pos sendable, ← reply]
            exact (interpret_eq_ok_iff _ _ _).mpr brought
          obtain ⟨token, named, goes⟩ := next_page_of_more more
          have after : client.pageAfter project answers pageToken = some page.nextPageToken := by
            rw [pageAfter, found]
            dsimp only
            rw [goes, named]
          rw [walk, after, Option.bind_some]
          exact ih (fun exchange member => given exchange (List.mem_cons_of_mem _ member)) step
            (Nat.le_of_succ_le_succ early)

theorem Leads.asked_once {transport : Transport State} {answers : Option String → Answer}
    (byToken : client.AnswersByToken project transport answers) (can : client.canSend = true)
    {pageToken behind : Option String} {exchanges : List (Request × Answer)}
    {pages : List CertificateList} (leads : Leads client project pageToken exchanges pages behind)
    (given : Given transport exchanges)
    (forward : ¬ Returns (client.pageAfter project answers) pageToken) :
    (asked pageToken pages).Nodup := by
  apply List.pairwise_iff_getElem.mpr
  intro first second firstBound secondBound later same
  have length : (asked pageToken pages).length = pages.length + 1 := by simp [asked]
  have reached (step : Nat) (bound : step < (asked pageToken pages).length) :
      walk (client.pageAfter project answers) step pageToken =
        some ((asked pageToken pages)[step]) := by
    rw [leads.walks byToken can given step (by omega), List.getElem?_eq_getElem bound]
  apply forward
  refine ⟨first, second, later, ?_, ?_⟩
  · rw [reached first firstBound, reached second secondBound, same]
  · rw [reached first firstBound]
    exact Option.some_ne_none _

/-- A listing is the course of its pages, from the first page, which is asked for without a
token, to the last one or the one that cannot be had. The address of a page is that of the
certificates with the pairs of its query kept and the token, if any, put behind them. Over a
service that answers by the page token alone no request of a listing that returns is made twice.
A client whose requests cannot be sent asks for nothing. -/
theorem listing_is_course_of_pages (client : Client) (transport : Transport State)
    (project : String) (rounds : Nat) (state : State) :
    (client.canSend = true →
      ∃ made, (client.list transport.recorded rounds project (state, [])).2.2 = made ∧
        Given transport made ∧
        Course client project rounds none [] made
          (client.list transport rounds project state).1.result ∧
        ∀ answers, client.AnswersByToken project transport answers →
          (client.list transport rounds project state).1.result ≠ none →
            (made.map Prod.fst).Nodup) ∧
      (client.canSend = false → 0 < rounds →
        (client.list transport.recorded rounds project (state, [])).2.2 = [] ∧
          (client.list transport rounds project state).1.result =
            some (.error (.request .rejected))) ∧
      ∀ pageToken,
        (client.pageUrl project pageToken).path =
            (client.resourceUrl project [certificates]).path ∧
          (client.pageUrl project pageToken).pairs =
            client.baseUrl.pairs ++
              pageToken.toList.map (fun token => (some "pageToken", some token)) ∧
          ∃ added, (client.pageUrl project pageToken).queryText =
            client.baseUrl.queryText ++ added := by
  refine ⟨?_, ?_, ?_⟩
  · intro can
    obtain ⟨made, grown, given, course⟩ :=
      list_from_course project transport can rounds none [] state []
    have plain := (list_from_recorded transport client project rounds none [] (state, [])).1
    rw [plain] at course
    change Course client project rounds none [] made
      (client.list transport rounds project state).1.result at course
    refine ⟨made, grown, given, course, ?_⟩
    intro answers byToken ended
    have forward := not_returns_of_ended _
      ((list_from_ended_iff byToken rounds none [] state).mp ended)
    have distinct {exchanges : List (Request × Answer)} {pages : List CertificateList}
        {behind : Option String} (answer : Answer)
        (leads : Leads client project none exchanges pages behind)
        (answered : Given transport
          (exchanges ++ [(client.pageRequest project behind, answer)])) :
        ((exchanges ++ [(client.pageRequest project behind, answer)]).map Prod.fst).Nodup := by
      rw [leads.requests answer]
      apply List.Nodup.map (page_request_injective client project)
      apply leads.asked_once byToken can _ forward
      exact fun exchange member => answered exchange (List.mem_append_left _ member)
    revert ended
    generalize (client.list transport rounds project state).1.result = result at course
    cases course with
    | unended leads count => exact fun ended => absurd rfl ended
    | complete leads count brought last => exact fun _ => distinct _ leads given
    | failed leads count refused => exact fun _ => distinct _ leads given
  · intro cannot enough
    obtain ⟨rounds, rfl⟩ := Nat.exists_eq_add_one.mpr enough
    have unsendable : isSendable (client.request .get (client.pageUrl project none) none) =
        false := (sendable_page client project none).trans cannot
    simp only [list, listFrom, send, unsendable, Bool.false_eq_true, if_false, and_self]
  · intro pageToken
    exact ⟨page_path client project pageToken, pairs_page_url client project pageToken,
      page_query_kept client project pageToken⟩

def itemPage : Answer :=
  .complete 200 (Text.Utf8.encode "\x7b\"items\":[\x7b\"name\":\"x\"\x7d]\x7d")

def mutedClient : Client :=
  { localClient with token := some "\n" }

/-- Two pages are asked for one after the other, each once, and a client with an unfit token asks
for none. -/
theorem chain_of_pages_is_gathered :
    localClient.canSend = true ∧
      (localClient.list (server itemPage) 3 "p" ()).1.result =
        some (.ok ⟨[{ Certificate.blank with name := "x" }], none⟩) ∧
      (∃ made, (localClient.list (server itemPage).recorded 3 "p" ((), [])).2.2 = made ∧
        (made.map Prod.fst).Nodup) ∧
      mutedClient.canSend = false ∧
      (mutedClient.list (server itemPage).recorded 3 "p" ((), [])).2.2 = [] := by
  have can : localClient.canSend = true := by decide +kernel
  have cannot : mutedClient.canSend = false := by decide +kernel
  have result : (localClient.list (server itemPage) 3 "p" ()).1.result =
      some (.ok ⟨[{ Certificate.blank with name := "x" }], none⟩) := by decide +kernel
  obtain ⟨made, recorded, -, -, once⟩ :=
    (listing_is_course_of_pages localClient (server itemPage) "p" 3 ()).1 can
  have muted := (listing_is_course_of_pages mutedClient (server itemPage) "p" 3 ()).2.1 cannot
    (by decide)
  refine ⟨can, result, ⟨made, recorded, ?_⟩, cannot, muted.1⟩
  apply once _ (server_by_token itemPage)
  rw [result]
  exact Option.some_ne_none _

end CertSteward.Client
