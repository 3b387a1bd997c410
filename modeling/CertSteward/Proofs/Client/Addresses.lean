import CertSteward.Proofs.Client.Exchanges
import CertSteward.Proofs.Url.Segments

/-!
# Addresses of resources

The path of a request names the project and the item of its call, segment by
segment, exactly when both can be segments. Different calls then have different
paths, also as texts.
-/

namespace CertSteward

set_option autoImplicit false

open CertSteward.Url (Nameable room written)

namespace Rpc

def collection : Rpc → String
  | .operation _ => Client.operations
  | _ => Client.certificates

def item? : Rpc → Option String
  | .delete name => some name
  | .get name => some name
  | .operation name => some name
  | _ => none

def resource (rpc : Rpc) : List String :=
  rpc.collection :: rpc.item?.toList

end Rpc

namespace Client

open CertSteward.Http (Transport Request Answer)

variable {State α : Type} {settings : ClientSettings} {client : Client} {project : String}
  {rpc : Rpc}

def home (client : Client) : List String :=
  match client.baseUrl.path with
  | .segments segments => segments.dropLast
  | .opaqueText _ => []

/-- Whether a path leads from the service's address to the resource of a call: the segments in
the place of the project and of the item decode to their names. -/
def Names (client : Client) (project : String) (rpc : Rpc) (path : UrlPath) : Prop :=
  ∃ owner items,
    path = .segments (client.home ++ ["projects", owner, "global", rpc.collection] ++ items) ∧
      Percent.decode? owner.toList = some project ∧
      items.map (fun item => Percent.decode? item.toList) = rpc.item?.toList.map some

/-- Whether the names in a call can be segments. -/
def Addressable (project : String) (rpc : Rpc) : Prop :=
  Nameable project ∧ ∀ item ∈ rpc.item?, Nameable item

instance (project : String) (rpc : Rpc) : Decidable (Addressable project rpc) :=
  inferInstanceAs (Decidable (Nameable project ∧ ∀ item ∈ rpc.item?, Nameable item))

theorem built_open_end (built : settings.build = .ok client) :
    ∃ base, client.baseUrl.path = .segments (base ++ [""]) := by
  have address : settings.address = .ok client.baseUrl := by
    cases found : settings.address with
    | error error =>
        rw [ClientSettings.build, found] at built
        contradiction
    | ok url =>
        rw [ClientSettings.build, found] at built
        change (if _ then _ else _) = _ at built
        split at built
        · rw [← Except.ok.inj built]
        · contradiction
  unfold ClientSettings.address at address
  split at address
  · contradiction
  · rename_i url _
    split at address
    · rw [← Except.ok.inj address]
      rename_i hierarchical
      cases path : url.path with
      | opaqueText whole =>
          rw [Url.isBase, path] at hierarchical
          contradiction
      | segments segments =>
          simp only [Url.withOpenEnd, path]
          split
          · rename_i ended
            exact ⟨segments.dropLast, by
              rw [path, List.dropLast_append_getLast? "" ended]⟩
          · exact ⟨segments, rfl⟩
    · contradiction

theorem room_close_end (base : List String) :
    room (Url.closeEnd (base ++ [""])) = room base := by
  cases base with
  | nil => rfl
  | cons first rest =>
      have long : 1 < (first :: rest ++ [""]).length := by
        simp only [List.length_append, List.length_cons, List.length_nil]
        omega
      rw [Url.closeEnd, if_pos ⟨List.getLast?_concat, long⟩, List.dropLast_concat]

theorem collection_eq (rpc : Rpc) :
    rpc.collection = certificates ∨ rpc.collection = operations := by
  cases rpc <;> first | exact .inl rfl | exact .inr rfl

theorem collection_nameable (rpc : Rpc) : Nameable rpc.collection := by
  obtain same | same := collection_eq rpc <;> rw [same] <;> decide

theorem written_collection (special : Bool) (rpc : Rpc) :
    String.ofList (written special rpc.collection.toList) = rpc.collection := by
  obtain same | same := collection_eq rpc <;> rw [same] <;> cases special <;> rfl

/-- The path of a resource, text by text. -/
theorem resource_path (built : settings.build = .ok client) (project : String) (rpc : Rpc) :
    (client.resourceUrl project rpc.resource).path =
      .segments ((project :: "global" :: rpc.resource).foldl
        (Url.pushSegment client.baseUrl.isSpecial) (room client.home ++ ["projects"])) := by
  obtain ⟨base, path⟩ := built_open_end built
  have home : client.home = base := by
    rw [Client.home, path]
    exact List.dropLast_concat
  have projects : String.ofList (written client.baseUrl.isSpecial "projects".toList) =
      "projects" := by cases client.baseUrl.isSpecial <;> rfl
  simp only [resourceUrl, Url.extend, path]
  rw [List.cons_append, List.foldl_cons, Url.push_nameable _ (by decide), projects,
    room_close_end, home]
  rfl

theorem way_ne_blank (front : List String) : front ++ ["projects"] ≠ [""] := by
  intro same
  have last := congrArg List.getLast? same
  rw [List.getLast?_concat] at last
  exact absurd (Option.some.inj last) (by decide)

def resourceSegments (special : Bool) (project : String) (rpc : Rpc) : List String :=
  (project :: "global" :: rpc.resource).map fun text =>
    String.ofList (written special text.toList)

theorem addressable_path (built : settings.build = .ok client)
    (addressable : Addressable project rpc) :
    (client.resourceUrl project rpc.resource).path =
      .segments (room client.home ++ ["projects"] ++
        resourceSegments client.baseUrl.isSpecial project rpc) := by
  have nameable : ∀ text ∈ project :: "global" :: rpc.resource, Nameable text := by
    intro text member
    simp only [Rpc.resource, List.mem_cons, Option.mem_toList] at member
    obtain rfl | rfl | rfl | item := member
    · exact addressable.1
    · decide
    · exact collection_nameable rpc
    · exact addressable.2 text item
  rw [resource_path built, Url.push_all_nameable (by simp) (way_ne_blank _) nameable,
    resourceSegments]

theorem names_of_addressable (built : settings.build = .ok client) (kept : client.home ≠ [""])
    (addressable : Addressable project rpc) :
    client.Names project rpc (client.resourceUrl project rpc.resource).path := by
  have global : String.ofList (written client.baseUrl.isSpecial "global".toList) = "global" := by
    cases client.baseUrl.isSpecial <;> rfl
  have decoded (text : String) : Percent.decode?
      (String.ofList (written client.baseUrl.isSpecial text.toList)).toList = some text := by
    rw [String.toList_ofList, Url.decode_written, String.ofList_toList]
  refine ⟨String.ofList (written client.baseUrl.isSpecial project.toList),
    rpc.item?.toList.map fun text => String.ofList (written client.baseUrl.isSpecial text.toList),
    ?_, decoded project, ?_⟩
  · rw [addressable_path built addressable, room, if_neg kept, resourceSegments, Rpc.resource,
      List.map_cons, List.map_cons, List.map_cons, global, written_collection]
    simp only [List.append_assoc, List.cons_append, List.nil_append]
  · rw [List.map_map]
    apply List.map_congr_left
    intro text _
    rw [Function.comp_apply, decoded]

/-- A path with as many segments as it should have keeps every text in its place. -/
theorem addressable_of_names (built : settings.build = .ok client)
    (named : client.Names project rpc (client.resourceUrl project rpc.resource).path) :
    client.home ≠ [""] ∧ Addressable project rpc := by
  obtain ⟨owner, items, path, owned, named⟩ := named
  rw [resource_path built] at path
  have whole := UrlPath.segments.inj path
  have count := congrArg List.length named
  have length := congrArg List.length whole
  simp only [List.length_map] at count
  simp only [List.length_append, List.length_cons, List.length_nil, count] at length
  have fits := Url.room_length_le client.home
  obtain missing | ⟨added, pushed, owners⟩ := Url.push_all_cases
    client.baseUrl.isSpecial (project :: "global" :: rpc.resource)
    (List.append_ne_nil_of_right_ne_nil (room client.home) (List.cons_ne_nil "projects" []))
    (way_ne_blank _)
  -- A named path has all its segments, so none of the texts has lost its own.
  · rw [Rpc.resource] at missing length
    simp only [List.length_append, List.length_cons, List.length_nil] at missing
    omega
  · have texts := owners.length_eq
    rw [pushed] at whole length
    rw [Rpc.resource] at texts
    simp only [List.length_append, List.length_cons, List.length_nil] at texts length
    have kept : client.home ≠ [""] := by
      intro blank
      rw [blank, room, if_pos rfl] at length
      simp only [List.length_cons, List.length_nil] at length
      omega
    rw [room, if_neg kept] at whole
    have behind : added = owner :: "global" :: rpc.collection :: items := by
      simpa using whole
    rw [behind] at owners
    obtain ⟨first, owners⟩ := List.forall₂_cons.mp owners
    refine ⟨kept, first owned, ?_⟩
    intro item found
    have items_named := (List.forall₂_cons.mp (List.forall₂_cons.mp owners).2).2
    rw [Option.mem_def.mp found] at items_named named
    obtain ⟨segment, rest, names, none_left, rfl⟩ := List.forall₂_cons_right_iff.mp items_named
    exact names (List.cons.inj named).1

/-- Names that can be segments are found again in the text of the path. -/
theorem resource_of_path (built : settings.build = .ok client) {other : String} {rival : Rpc}
    (addressable : Addressable project rpc) (rivals : Addressable other rival)
    (same : (client.resourceUrl project rpc.resource).path.text =
      (client.resourceUrl other rival.resource).path.text) :
    project = other ∧ rpc.resource = rival.resource := by
  have slashless (owner : String) (call : Rpc) :
      ∀ segment ∈ resourceSegments client.baseUrl.isSpecial owner call,
        '/' ∉ segment.toList := by
    intro segment member
    obtain ⟨text, -, rfl⟩ := List.mem_map.mp member
    rw [String.toList_ofList]
    exact Percent.slash_not_mem_encode (Url.slash_escaped _) text.toList
  rw [addressable_path built addressable, addressable_path built rivals] at same
  have segments := UrlPath.segments_behind_injective (slashless _ _) (slashless _ _) same
  have texts := List.map_injective_iff.mpr Url.written_injective segments
  exact ⟨(List.cons.inj texts).1, (List.cons.inj (List.cons.inj texts).2).2⟩

def canSend (client : Client) : Bool :=
  isSendable (client.request .get client.baseUrl none)

/-- Whether a record has grown by requests for one path alone, and by at least one where one
is due. -/
def Asks (path : UrlPath) (due : Prop) (past after : List (Request × Answer)) : Prop :=
  ∃ made, after = past ++ made ∧ (∀ exchange ∈ made, exchange.1.url.path = path) ∧
    (due → made ≠ [])

variable {path : UrlPath} {due later : Prop} {past middle after : List (Request × Answer)}

theorem Asks.weaken (asks : Asks path due past after) (still : later → due) :
    Asks path later past after := by
  obtain ⟨made, grown, paths, sent⟩ := asks
  exact ⟨made, grown, paths, fun asked => sent (still asked)⟩

theorem Asks.trans (first : Asks path due past middle) (second : Asks path later middle after) :
    Asks path due past after := by
  obtain ⟨made, rfl, paths, sent⟩ := first
  obtain ⟨more, rfl, others, -⟩ := second
  refine ⟨made ++ more, List.append_assoc past made more, ?_, ?_⟩
  · intro exchange member
    obtain member | member := List.mem_append.mp member
    · exact paths exchange member
    · exact others exchange member
  · intro asked
    exact List.append_ne_nil_of_left_ne_nil (sent asked) more

variable (transport : Transport State) (decoder : Json.Decoder α)

theorem send_asks {url : Url} (near : url.scheme = client.baseUrl.scheme) (method : Http.Method)
    (body : Option Json.Value) (state : State) (past : List (Request × Answer)) :
    Asks url.path (client.canSend = true) past
      (send transport.recorded decoder (client.request method url body) (state, past)).2.2.2 := by
  have sendable : isSendable (client.request method url body) = client.canSend := by
    rw [canSend, isSendable, isSendable, request, request, near]
  unfold send
  rw [sendable]
  by_cases can : client.canSend = true
  · rw [if_pos can]
    refine ⟨_, rfl, ?_, fun _ => List.cons_ne_nil _ _⟩
    intro exchange member
    rw [List.mem_singleton.mp member]
    rfl
  · rw [if_neg can]
    exact ⟨[], (List.append_nil past).symm, by simp, fun sent => absurd sent can⟩

theorem resource_scheme (client : Client) (project : String) (names : List String) :
    (client.resourceUrl project names).scheme = client.baseUrl.scheme := by
  unfold resourceUrl Url.extend
  split <;> rfl

/-- The address of a page is that of the listing but for the query. -/
theorem page_beside_query (client : Client) (project : String) (pageToken : Option String) :
    ∃ query, client.pageUrl project pageToken =
      { client.resourceUrl project [certificates] with query := query } := by
  unfold pageUrl Url.appendQuery
  cases pageToken with
  | none => exact ⟨_, rfl⟩
  | some token => dsimp only; split <;> exact ⟨_, rfl⟩

theorem page_scheme (client : Client) (project : String) (pageToken : Option String) :
    (client.pageUrl project pageToken).scheme = client.baseUrl.scheme := by
  obtain ⟨query, beside⟩ := page_beside_query client project pageToken
  rw [beside]
  exact resource_scheme client project [certificates]

theorem page_path (client : Client) (project : String) (pageToken : Option String) :
    (client.pageUrl project pageToken).path =
      (client.resourceUrl project [certificates]).path := by
  obtain ⟨query, beside⟩ := page_beside_query client project pageToken
  rw [beside]

theorem single_asks (project : String) (names : List String) (method : Http.Method)
    (body : Option Json.Value) (state : State) :
    Asks (client.resourceUrl project names).path (client.canSend = true) []
      (client.single transport.recorded decoder method (client.resourceUrl project names) body
        (state, [])).2.2 :=
  send_asks transport decoder (resource_scheme client project names) method body state []

theorem list_from_asks (project : String) (rounds : Nat) (pageToken : Option String)
    (gathered : List Certificate) (state : State) (past : List (Request × Answer)) :
    Asks (client.resourceUrl project [certificates]).path
      (client.canSend = true ∧ 0 < rounds) past
      (client.listFrom transport.recorded project rounds pageToken gathered (state, past)).2.2 := by
  induction rounds generalizing pageToken gathered state past with
  | zero =>
      exact ⟨[], (List.append_nil past).symm, by simp, fun due => absurd due.2 (Nat.lt_irrefl 0)⟩
  | succ rounds ih =>
      have sent := send_asks transport CertificateList.decoder
        (page_scheme client project pageToken) .get none state past
      rw [page_path] at sent
      refine Asks.weaken ?_ And.left
      rw [listFrom]
      dsimp only
      split
      · exact sent
      · split
        · exact sent
        · exact sent
        · exact sent.trans (ih _ _ _ _)

/-- All requests of a call are for the path of its resource. -/
theorem call_asks (rounds : Nat) (project : String) (rpc : Rpc) (state : State) :
    Asks (client.resourceUrl project rpc.resource).path (client.canSend = true ∧ 0 < rounds) []
      (client.call transport.recorded rounds project rpc (state, [])).2.2 := by
  cases rpc with
  | insert certificate => exact (single_asks transport _ project _ _ _ state).weaken And.left
  | delete name => exact (single_asks transport _ project _ _ _ state).weaken And.left
  | get name => exact (single_asks transport _ project _ _ _ state).weaken And.left
  | list => exact list_from_asks transport project rounds none [] state []
  | operation name => exact (single_asks transport _ project _ _ _ state).weaken And.left

/-- The requests of a call all go to one path. It leads from the service's address to the
resource of the call exactly when the names in it can be segments and the address has not an
empty segment for a path; and among calls whose names can be segments it is the path of no
other resource. -/
theorem requests_stay_on_resource_iff (built : settings.build = .ok client) (rounds : Nat)
    (project : String) (rpc : Rpc) (state : State) :
    Asks (client.resourceUrl project rpc.resource).path (client.canSend = true ∧ 0 < rounds) []
        (client.call transport.recorded rounds project rpc (state, [])).2.2 ∧
      (client.Names project rpc (client.resourceUrl project rpc.resource).path ↔
        client.home ≠ [""] ∧ Addressable project rpc) ∧
      (Addressable project rpc → ∀ other rival, Addressable other rival →
        (client.resourceUrl project rpc.resource).path.text =
          (client.resourceUrl other rival.resource).path.text →
        project = other ∧ rpc.resource = rival.resource) := by
  refine ⟨call_asks transport rounds project rpc state, ⟨addressable_of_names built, ?_⟩, ?_⟩
  · rintro ⟨kept, addressable⟩
    exact names_of_addressable built kept addressable
  · intro addressable other rival rivals same
    exact resource_of_path built addressable rivals same

def localSettings : ClientSettings :=
  ⟨"http://localhost:1/compute/v1", none, "steward"⟩

def localBuilt : Client :=
  ⟨⟨"http", some ⟨"", none, "localhost", some 1⟩, .segments ["compute", "v1", ""], none, none⟩,
    none, "steward"⟩

/-- A slash in a name stays within the segment of the name. -/
theorem slash_in_name_is_kept :
    localSettings.build = .ok localBuilt ∧
      localBuilt.Names "p" (.operation "a/b")
        (localBuilt.resourceUrl "p" (Rpc.operation "a/b").resource).path :=
  have built : localSettings.build = .ok localBuilt := rfl
  ⟨built, (requests_stay_on_resource_iff (Http.unreachable : Transport Unit) built 1 "p"
    (.operation "a/b") ()).2.1.2 (by decide)⟩

/-- A tab in a name is lost on the way: the request for one item goes to another one. -/
theorem tab_in_name_is_lost :
    ¬ ∀ (settings : ClientSettings) (client : Client), settings.build = .ok client →
      ∀ (project : String) (rpc : Rpc),
        client.Names project rpc (client.resourceUrl project rpc.resource).path ∧
          ∀ (other : String) (rival : Rpc),
            (client.resourceUrl project rpc.resource).path.text =
              (client.resourceUrl other rival.resource).path.text →
            project = other ∧ rpc.resource = rival.resource := by
  intro claimed
  obtain ⟨-, apart⟩ := claimed localSettings localBuilt rfl "p" (.get "a\tb")
  have same := (apart "p" (.get "ab") rfl).2
  exact absurd same (by decide)

end Client

end CertSteward
