import HeatpumpGateway.Proofs.Extent
import HeatpumpGateway.Proofs.Faults

/-!
# Reads that leave channels out

A frame can pass the header check and still be too short for some of its records.
`parse_records` drops these one by one, and the three reads of the service look at
the gap differently: one reports the channel as unknown, the others return a list
without it.

A sweep's answers are read off its marks by `firstAnswer`, which walks over the
exchanges until the commands of a request are answered by valid frames, as many as
there are commands. The read stops there, whatever came before, so the frames it
decodes are known without looking at the code. `Spoiled` follows the requests of a
sweep along the marks in this way; it holds when all are answered but a frame does not
decode a channel that was asked for, or when a command reached is no hexadecimal text.
The main theorem says that a read is complete exactly when it is not spoiled.
-/

namespace HeatpumpGateway

open Dialogue CommunicationService

variable {waitingTime : Nat} {request : Request}

/-! ## The first answer in full -/

/-- The frames right here, when they answer all the commands and are valid, with the
marks after them. -/
def answerHere : List Bytes → List Mark → Option (List Bytes × List Mark)
  | [], ms => some ([], ms)
  | command :: commands, .getData message :: .gotData frame :: ms =>
      if message = createRequestMessage command GET ∧ headerCheck frame = true then
        (answerHere commands ms).map fun found => (frame :: found.1, found.2)
      else none
  | _ :: _, _ => none

def firstAnswer (commands : List Bytes) : List Mark → Option (List Bytes × List Mark)
  | [] => none
  | m :: ms =>
      match answerHere commands (m :: ms) with
      | some found => some found
      | none => firstAnswer commands ms

/-- Marks that do not begin in the middle of an exchange. -/
def Fresh (ms : List Mark) : Prop := ∀ reply rest, ms ≠ .gotData reply :: rest

theorem fresh_nil : Fresh [] := fun _ _ h => by cases h

theorem answerHere_exchange {commands : List Bytes} : ∀ {frames : List Bytes},
    frames.length = commands.length → (∀ frame ∈ frames, headerCheck frame = true) →
    ∀ after, answerHere commands (exchangeMarks commands frames ++ after)
      = some (frames, after) := by
  induction commands with
  | nil =>
      intro frames hlen _ after
      obtain rfl := List.eq_nil_of_length_eq_zero hlen
      rfl
  | cons command commands ih =>
      intro frames hlen hvalid after
      match frames, hlen with
      | frame :: frames, hlen =>
          have hrest := ih (Nat.succ.inj hlen)
            (fun f hf => hvalid f (List.mem_cons_of_mem _ hf)) after
          rw [exchangeMarks, List.cons_append, List.cons_append, answerHere,
            if_pos ⟨rfl, hvalid frame List.mem_cons_self⟩, hrest]
          rfl

/-- Where an answer is found, it is one. -/
theorem answerHere_sound {commands : List Bytes} : ∀ {ms : List Mark} {frames : List Bytes}
    {after : List Mark}, answerHere commands ms = some (frames, after) →
    frames.length = commands.length ∧ (∀ frame ∈ frames, headerCheck frame = true) ∧
      ms = exchangeMarks commands frames ++ after := by
  induction commands with
  | nil =>
      intro ms frames after h
      cases h
      exact ⟨rfl, by simp, rfl⟩
  | cons command commands ih =>
      intro ms frames after h
      match ms, h with
      | .getData message :: .gotData frame :: ms, h =>
          rw [answerHere] at h
          split at h
          · next hhere =>
              obtain ⟨found, hfound, heq⟩ := Option.map_eq_some_iff.mp h
              obtain ⟨frames', after'⟩ := found
              cases heq
              obtain ⟨hlen, hvalid, rfl⟩ := ih hfound
              refine ⟨congrArg Nat.succ hlen, ?_, ?_⟩
              · intro f hf
                rcases List.mem_cons.mp hf with rfl | hf
                · exact hhere.2
                · exact hvalid f hf
              · rw [exchangeMarks, hhere.1]
                rfl
          · cases h

theorem firstAnswer_sound {commands : List Bytes} : ∀ {ms : List Mark} {frames : List Bytes}
    {after : List Mark}, firstAnswer commands ms = some (frames, after) →
    Answered commands frames ms := by
  intro ms
  induction ms with
  | nil => intro _ _ h; cases h
  | cons m ms ih =>
      intro frames after h
      rw [firstAnswer] at h
      split at h
      · next found hfound =>
          cases h
          obtain ⟨hlen, hvalid, heq⟩ := answerHere_sound hfound
          exact ⟨hlen, hvalid, heq ▸ (List.prefix_append _ _).isInfix⟩
      · obtain ⟨hlen, hvalid, hwithin⟩ := ih h
        exact ⟨hlen, hvalid, hwithin.trans (List.suffix_cons _ _).isInfix⟩

theorem firstAnswer_eq_none {commands : List Bytes} {ms : List Mark}
    (h : ∀ frames, ¬ Answered commands frames ms) : firstAnswer commands ms = none := by
  cases hfound : firstAnswer commands ms with
  | none => rfl
  | some found => exact absurd (firstAnswer_sound hfound) (h _)

theorem firstAnswer_exchange {commands frames : List Bytes} (hne : commands ≠ [])
    (hlen : frames.length = commands.length) (hvalid : ∀ frame ∈ frames, headerCheck frame = true)
    (after : List Mark) :
    firstAnswer commands (exchangeMarks commands frames ++ after) = some (frames, after) := by
  have hhere := answerHere_exchange hlen hvalid after
  match commands, frames, hne, hlen with
  | command :: commands, frame :: frames, _, _ =>
      rw [exchangeMarks, List.cons_append, List.cons_append] at hhere ⊢
      rw [firstAnswer, hhere]

/-- A failed attempt is walked over. -/
theorem firstAnswer_skip {commands : List Bytes} {failed rest : List Mark}
    (hfailed : FailedMarks commands failed) (hrest : Fresh rest) :
    firstAnswer commands (failed ++ rest) = firstAnswer commands rest := by
  have hunread : ∀ command commands message, answerHere (command :: commands)
      (.getData message :: rest) = none := by
    intro command commands message
    match rest, hrest with
    | [], _ => rfl
    | .getData _ :: _, _ => rfl
    | .setData _ :: _, _ => rfl
    | .didSet _ :: _, _ => rfl
    | .gotData reply :: rest, h => exact absurd rfl (h reply rest)
  have hreply : ∀ command commands reply ms, answerHere (command :: commands)
      (.gotData reply :: ms) = none := fun _ _ _ _ => rfl
  cases hfailed with
  | unread command commands => rw [List.singleton_append, firstAnswer, hunread]
  | @invalid command reply commands hcheck =>
      have hhere : answerHere (command :: commands)
          (.getData (createRequestMessage command GET) :: .gotData reply :: rest) = none := by
        rw [answerHere, if_neg (by rw [hcheck]; simp)]
      rw [List.cons_append, List.singleton_append, firstAnswer, hhere, firstAnswer, hreply]
  | unread2 command command2 reply =>
      have hhere : answerHere [command, command2] (.getData (createRequestMessage command GET) ::
          .gotData reply :: .getData (createRequestMessage command2 GET) :: rest) = none := by
        rw [answerHere, hunread]
        split <;> rfl
      rw [List.cons_append, List.cons_append, List.singleton_append, firstAnswer, hhere,
        firstAnswer, hreply, firstAnswer, hunread]
  | @invalid2 command command2 reply reply2 hcheck =>
      have hsecond : answerHere [command2]
          (.getData (createRequestMessage command2 GET) :: .gotData reply2 :: rest) = none := by
        rw [answerHere, if_neg (by rw [hcheck]; simp)]
      have hhere : answerHere [command, command2] (.getData (createRequestMessage command GET) ::
          .gotData reply :: .getData (createRequestMessage command2 GET) :: .gotData reply2 ::
            rest) = none := by
        rw [answerHere, hsecond]
        split <;> rfl
      -- The second exchange does not answer the first command either.
      have hagain : answerHere [command, command2]
          (.getData (createRequestMessage command2 GET) :: .gotData reply2 :: rest) = none := by
        rw [answerHere, if_neg (by rw [hcheck]; simp)]
      rw [List.cons_append, List.cons_append, List.cons_append, List.singleton_append,
        firstAnswer, hhere, firstAnswer, hreply, firstAnswer, hagain, firstAnswer, hreply]

/-! ## One request -/

/-- The commands a read gets to ask: a second one that is no hexadecimal text is not
asked. `none` when the first one is not either. -/
def askedCommands (request : Request) : Option (List Bytes) :=
  match request.requestBytes, request.requestBytes2 with
  | .error _, _ => none
  | .ok command, .error _ => some [command]
  | .ok command, .ok second => some (command :: second.toList)

theorem askedCommands_eq {commands : List Bytes}
    (h : requestCommands request = .ok commands) : askedCommands request = some commands := by
  obtain ⟨command, hcommand, ⟨h2, rfl⟩ | ⟨command2, h2, rfl⟩⟩ := requestCommands_ok h
  · rw [askedCommands, hcommand, h2]
    rfl
  · rw [askedCommands, hcommand, h2]
    rfl

theorem fresh_of_head {message : Bytes} {rest : List Mark} :
    Fresh (.getData message :: rest) := fun _ _ h => by cases h

/-- A read that returns has decoded the first answer in full. -/
theorem ReadRun.firstAnswer {commands : List Bytes}
    (hcommands : requestCommands request = .ok commands) {values : Dict String DecodedValue}
    {tr : Trace} (h : ReadRun waitingTime request values tr) :
    ∃ frames, frames.length = commands.length ∧ (∀ frame ∈ frames, headerCheck frame = true) ∧
      decodeFrames request frames = some (.ok values) ∧ Fresh (marks tr) ∧
      ∀ after, HeatpumpGateway.firstAnswer commands (marks tr ++ after) = some (frames, after) := by
  have hne := requestCommands_ne_nil hcommands
  induction h with
  | done hp =>
      obtain ⟨frames, hlen, hvalid, hm, hdecode⟩ := attempt_ok_marks hcommands hp
      refine ⟨frames, hlen, hvalid, hdecode, ?_, ?_⟩
      · rw [hm]
        match commands, frames, hne, hlen with
        | command :: commands, frame :: frames, _, _ => exact fresh_of_head
      · intro after
        rw [hm]
        exact firstAnswer_exchange hne hlen hvalid after
  | @again tr tr' tr'' e hp _ hrestart _ ih =>
      obtain ⟨frames, hlen, hvalid, hdecode, hfresh, hanswer⟩ := ih
      have hfailed := attempt_failed_marks hcommands hp
      have hm : marks (tr ++ tr' ++ tr'') = marks tr ++ marks tr'' := by
        rw [marks_append, marks_append, restart_marks hrestart, List.append_nil]
      refine ⟨frames, hlen, hvalid, hdecode, ?_, ?_⟩
      · obtain ⟨message, rest, hhead⟩ := hfailed.head
        rw [hm, hhead]
        exact fresh_of_head
      · intro after
        rw [hm, List.append_assoc, firstAnswer_skip hfailed ?_, hanswer after]
        intro reply rest hc
        match hmarks : marks tr'', hc with
        | [], hc =>
            have hnone := hanswer []
            rw [hmarks] at hnone
            cases hnone
        | .gotData _ :: _, _ => exact hfresh _ _ hmarks

/-- The transport refuses nothing: all it does is deliver bytes or none. -/
def Obliging (tr : Trace) : Prop := ∀ ev ∈ tr, refusal ev = none

instance (tr : Trace) : Decidable (Obliging tr) := inferInstanceAs (Decidable (∀ ev ∈ tr, _))

theorem Obliging.append_iff {tr tr' : Trace} :
    Obliging (tr ++ tr') ↔ Obliging tr ∧ Obliging tr' := by
  unfold Obliging
  rw [List.forall_mem_append]

theorem Obliging.refusedLast {tr : Trace} (h : Obliging tr) : refusedLast tr = none := by
  rw [HeatpumpGateway.refusedLast]
  cases hlast : tr.getLast? with
  | none => rfl
  | some ev => exact h ev (List.mem_of_getLast? hlast)

theorem requestBytes2_error {e : Exc} (h : request.requestBytes2 = .error e) :
    e.isProtocolError = false := by
  rw [Request.requestBytes2] at h
  split at h
  · cases h
  · split at h
    · cases h
    · next text _ _ =>
        cases hhex : fromHex text with
        | ok data =>
            rw [hhex] at h
            cases h
        | error e' =>
            rw [hhex] at h
            cases h
            exact fromHex_not_protocolError hhex

/-- After a failed attempt the link is restarted, and the read goes on. -/
theorem retry_after {commands : List Bytes} {tr₁ tr₂ : Trace} {attempts : Nat}
    {lastError : Option String} {r : Except Exc (Dict String DecodedValue)}
    (hquiet : refusedLast tr₁ = none) (hfailed : FailedMarks commands (marks tr₁))
    (h : Path (do
      restart
      readLoop waitingTime request attempts lastError) tr₂ r)
    (hloop : ∀ {tr₃}, Path (readLoop waitingTime request attempts lastError) tr₃ r →
      Fresh (marks tr₃) ∧ ∃ e, r = .error e ∧
        (e.isProtocolError = true ↔
          refusedLast tr₃ = none ∧ firstAnswer commands (marks tr₃) = none)) :
    Fresh (marks (tr₁ ++ tr₂)) ∧ ∃ e, r = .error e ∧
      (e.isProtocolError = true ↔
        refusedLast (tr₁ ++ tr₂) = none ∧ firstAnswer commands (marks (tr₁ ++ tr₂)) = none) := by
  obtain ⟨message, rest, hhead⟩ := hfailed.head
  rw [refusedLast_append_of_none hquiet]
  rcases Path.bind_iff.mp h with ⟨e, rfl, hre⟩ | ⟨_, tr₂, tr₃, rfl, hre, hnext⟩
  · have hm : marks tr₂ = [] := restart_marks hre
    rw [marks_append, hm]
    refine ⟨by rw [hhead]; exact fresh_of_head, e, rfl, ?_⟩
    rw [firstAnswer_skip hfailed fresh_nil, Wary.restart.error_iff hre]
    exact (and_iff_left rfl).symm
  · obtain ⟨hfresh, e, rfl, hiff⟩ := hloop hnext
    have hm : marks (tr₂ ++ tr₃) = marks tr₃ := by
      rw [marks_append, restart_marks hre, List.nil_append]
    have hrestarted := Wary.restart.refusedLast_of_ok hre
    rw [marks_append, hm, refusedLast_append_of_none hrestarted]
    refine ⟨by rw [hhead]; exact fresh_of_head, e, rfl, ?_⟩
    rw [firstAnswer_skip hfailed hfresh]
    exact hiff

/-- With a second command that is no hexadecimal text, every read fails, and with
something else than a `ProtocolError` once its first command is answered. -/
theorem readLoop_unhex {command : Bytes} (hcommand : request.requestBytes = .ok command)
    {e₂ : Exc} (h₂ : request.requestBytes2 = .error e₂) (attempts : Nat) :
    ∀ {lastError : Option String} {tr : Trace} {r : Except Exc (Dict String DecodedValue)},
      Path (readLoop waitingTime request attempts lastError) tr r →
      Fresh (marks tr) ∧ ∃ e, r = .error e ∧
        (e.isProtocolError = true ↔
          refusedLast tr = none ∧ firstAnswer [command] (marks tr) = none) := by
  induction attempts with
  | zero =>
      intro lastError tr r h
      obtain ⟨rfl, rfl⟩ := Path.raise_iff.mp h
      exact ⟨fresh_nil, _, rfl, iff_of_true rfl ⟨rfl, rfl⟩⟩
  | succ attempts ih =>
      intro lastError tr r h
      rw [readLoop] at h
      rcases Path.handle_iff.mp h with ⟨values, _, hp⟩ | ⟨e, tr₁, tr₂, rfl, hp, hrest⟩
      · obtain ⟨commands, hcommands⟩ := (ReadRun.done hp).commands
        exact absurd h₂ (requestBytes2_of_commands hcommands e₂)
      generalize hr : (Except.error e : Except Exc (Dict String DecodedValue)) = r₁ at hp
      cases readAttempt_path hcommand hp with
      | unread hget =>
          cases hr
          have hfailed : FailedMarks [command] (marks tr₁) := by
            rw [getData_marks hget]
            exact .unread command []
          have hiff := getData_error_iff hget
          by_cases hprotocol : e.isProtocolError = true
          · rw [if_pos hprotocol] at hrest
            exact retry_after (hiff.mp hprotocol) hfailed hrest ih
          · rw [if_neg hprotocol] at hrest
            obtain ⟨rfl, rfl⟩ := Path.raise_iff.mp hrest
            rw [List.append_nil]
            obtain ⟨message, rest, hhead⟩ := hfailed.head
            refine ⟨by rw [hhead]; exact fresh_of_head, e, rfl, ?_⟩
            exact iff_of_false hprotocol fun hc => hprotocol (hiff.mpr hc.1)
      | invalid _ hget hcheck =>
          cases hr
          have hfailed : FailedMarks [command] (marks tr₁) := by
            rw [getData_ok_marks hget]
            exact .invalid [] hcheck
          rw [if_pos (show (Exc.protocolError _).isProtocolError = true from rfl)] at hrest
          exact retry_after ((Wary.getData _).refusedLast_of_ok hget) hfailed hrest ih
      | @unhex _ reply _ hget hcheck herror =>
          cases hr
          have he := requestBytes2_error herror
          rw [if_neg (by rw [he]; decide)] at hrest
          obtain ⟨rfl, rfl⟩ := Path.raise_iff.mp hrest
          have hm : marks tr₁ = exchangeMarks [command] [reply] ++ [] := getData_ok_marks hget
          have hfound := @firstAnswer_exchange [command] [reply] (by simp) rfl
            (by simpa using hcheck) []
          rw [List.append_nil, hm]
          refine ⟨fresh_of_head, e, rfl, ?_⟩
          rw [hfound, he]
          simp
      | single _ _ h2 =>
          rw [h₂] at h2
          cases h2
      | unread2 _ _ h2 _ =>
          rw [h₂] at h2
          cases h2
      | invalid2 _ _ _ h2 _ _ =>
          rw [h₂] at h2
          cases h2
      | double _ _ h2 _ _ =>
          rw [h₂] at h2
          cases h2

/-! ## The values of a sweep -/

/-- What frames say about some records, leaving out those they do not decode. -/
def readings (frames : List Bytes) (records : List ChannelDefinition) :
    Dict String DecodedValue :=
  records.filterMap fun record =>
    (decodeRecord record frames).toOption.map fun value => (record.channelId, value)

theorem mem_readings_keys {frames : List Bytes} {records : List ChannelDefinition} {id : String} :
    id ∈ (readings frames records).keys ↔
      ∃ record ∈ records, record.channelId = id ∧ Readable frames record := by
  simp only [readings, Dict.keys, List.mem_map, List.mem_filterMap, Option.map_eq_some_iff,
    Readable, Option.isSome_iff_exists]
  refine ⟨?_, ?_⟩
  · intro hc
    obtain ⟨_, ⟨record, hrecord, value, hvalue, rfl⟩, rfl⟩ := hc
    exact ⟨record, hrecord, rfl, value, hvalue⟩
  · intro hc
    obtain ⟨record, hrecord, rfl, value, hvalue⟩ := hc
    exact ⟨_, ⟨record, hrecord, value, hvalue, rfl⟩, rfl⟩

theorem readings_keys_sublist (frames : List Bytes) (records : List ChannelDefinition) :
    ((readings frames records).keys).Sublist (records.map ChannelDefinition.channelId) := by
  induction records with
  | nil => exact List.Sublist.slnil
  | cons record records ih =>
      rw [readings, List.filterMap_cons]
      cases (decodeRecord record frames).toOption with
      | none => exact ih.cons _
      | some value => exact ih.cons_cons _

/-- A record's value is found under its id, where it has the id for itself. -/
theorem get?_readings {frames : List Bytes} {records : List ChannelDefinition}
    (hids : (records.map ChannelDefinition.channelId).Nodup) {record : ChannelDefinition}
    (h : record ∈ records) :
    (readings frames records).get? record.channelId = (decodeRecord record frames).toOption := by
  have hkeys := (readings_keys_sublist frames records).nodup hids
  cases hvalue : (decodeRecord record frames).toOption with
  | some value =>
      refine Dict.get?_eq_some_of_mem hkeys (List.mem_filterMap.mpr ⟨record, h, ?_⟩)
      rw [hvalue]
      rfl
  | none =>
      refine Dict.get?_eq_none_iff.mpr fun hc => ?_
      obtain ⟨record', hrecord', hid, hreadable⟩ := mem_readings_keys.mp hc
      obtain rfl := List.inj_on_of_nodup_map hids hrecord' h hid
      rw [Readable, hvalue] at hreadable
      cases hreadable

/-- Fresh readings go to the end of what a sweep has so far. -/
theorem update_readings {data : Dict String DecodedValue} {records : List ChannelDefinition}
    (frames : List Bytes) {rest : List String}
    (h : (data.keys ++ (records.map ChannelDefinition.channelId ++ rest)).Nodup) :
    data.update (readings frames records) = data ++ readings frames records := by
  have hkeys := readings_keys_sublist frames records
  obtain ⟨_, hids, hfresh⟩ := List.nodup_append.mp h
  refine Dict.update_of_fresh _ _ (hkeys.nodup (List.nodup_append.mp hids).1) fun k hk hc => ?_
  exact hfresh k hc k (List.mem_append_left _ (hkeys.subset hk)) rfl

theorem nodup_readings {data : Dict String DecodedValue} {records : List ChannelDefinition}
    (frames : List Bytes) {rest : List String}
    (h : (data.keys ++ (records.map ChannelDefinition.channelId ++ rest)).Nodup) :
    ((data ++ readings frames records : Dict String DecodedValue).keys ++ rest).Nodup := by
  rw [Dict.keys, List.map_append, List.append_assoc]
  have hkeys := readings_keys_sublist frames records
  exact ((List.Sublist.refl _).append (hkeys.append (List.Sublist.refl _))).nodup h

theorem parseRecords_step {frames : List Bytes} {f : ChannelDefinition → Except Exc DecodedValue}
    (hf : ∀ record, f record = decodeRecord record frames)
    (herror : ∀ record e, f record = .error e → ∃ text, e = .invalidData text)
    (records : List ChannelDefinition) : ∀ result : Dict String DecodedValue,
    (records.foldlM (fun result record =>
      match f record with
      | .ok value => .ok (result.set record.channelId value)
      | .error (.invalidData _) => .ok result
      | .error e => .error e) result : Except Exc (Dict String DecodedValue))
      = .ok (result.update (readings frames records)) := by
  induction records with
  | nil => intro result; rfl
  | cons record records ih =>
      intro result
      have hrecord := hf record
      rw [List.foldlM_cons, readings, List.filterMap_cons, ← hrecord]
      cases hvalue : f record with
      | ok value => exact ih _
      | error e =>
          obtain ⟨text, rfl⟩ := herror record e hvalue
          exact ih _

theorem parseRecords_one {reply : Bytes} (h : 2 ≤ reply.length) (records : List ChannelDefinition) :
    parseRecords reply records none = .ok (Dict.ofPairs (readings [reply] records)) := by
  rw [parseRecords, if_neg (by omega), if_neg (by simp)]
  exact @parseRecords_step [reply] (parseCombined reply none) (fun _ => rfl)
    (fun _ _ he => parseCombined_error he) _ []

theorem parseRecords_two {reply reply2 : Bytes} (h : 2 ≤ reply.length) (h2 : 2 ≤ reply2.length)
    (records : List ChannelDefinition) :
    parseRecords reply records (some reply2)
      = .ok (Dict.ofPairs (readings [reply, reply2] records)) := by
  have hlong : ¬ (some reply2).any (·.length < 2) = true := by
    rw [Option.any_some, decide_eq_true_eq]
    omega
  rw [parseRecords, if_neg (by omega), if_neg hlong]
  exact @parseRecords_step [reply, reply2] (parseCombined reply (some reply2)) (fun _ => rfl)
    (fun _ _ he => parseCombined_error he) _ []

/-- The records that decode are what is returned. -/
theorem decodeFrames_ofPairs {frames : List Bytes} {values : Dict String DecodedValue}
    (hvalid : ∀ frame ∈ frames, headerCheck frame = true)
    (h : decodeFrames request frames = some (.ok values)) :
    values = Dict.ofPairs (readings frames request.records) := by
  have hlong : ∀ frame ∈ frames, 2 ≤ frame.length := by
    intro frame hframe
    by_contra hc
    have hcheck := hvalid frame hframe
    rw [headerCheck_short (by omega)] at hcheck
    cases hcheck
  match frames, h with
  | [reply], h =>
      rw [decodeFrames, parseRecords_one (hlong reply (by simp))] at h
      cases h
      rfl
  | [reply, reply2], h =>
      rw [decodeFrames, parseRecords_two (hlong reply (by simp)) (hlong reply2 (by simp))] at h
      cases h
      rfl

/-- With channel ids of their own, they keep their order. -/
theorem decodeFrames_readings {frames : List Bytes} {values : Dict String DecodedValue}
    (hids : (request.records.map ChannelDefinition.channelId).Nodup)
    (hvalid : ∀ frame ∈ frames, headerCheck frame = true)
    (h : decodeFrames request frames = some (.ok values)) :
    values = readings frames request.records := by
  rw [decodeFrames_ofPairs hvalid h]
  exact Dict.ofPairs_of_nodup ((readings_keys_sublist frames request.records).nodup hids)

/-! ## Sweeps -/

/-- The frames that answer each of these requests, when all are answered in full, one
after another. -/
def sweepAnswers : List Request → List Mark → Option (List (Request × List Bytes))
  | [], _ => some []
  | request :: requests, ms =>
      match requestCommands request with
      | .error _ => none
      | .ok commands =>
          match firstAnswer commands ms with
          | none => none
          | some (frames, rest) =>
              (sweepAnswers requests rest).map fun found => (request, frames) :: found

/-- A command that the sweep comes to is no hexadecimal text. -/
def Misspelt : List Request → List Mark → Prop
  | [], _ => False
  | request :: requests, ms =>
      match askedCommands request with
      | none => True
      | some commands =>
          match firstAnswer commands ms with
          | none => False
          | some (_, rest) =>
              (∃ e, request.requestBytes2 = .error e) ∨ Misspelt requests rest

def sweepReadings (found : List (Request × List Bytes)) : Dict String DecodedValue :=
  found.flatMap fun p => readings p.2 p.1.records

/-- What a sweep has once some requests more are answered. -/
def sweepData (data : Dict String DecodedValue) (found : List (Request × List Bytes)) :
    Dict String DecodedValue :=
  found.foldl (fun data p => data.update (Dict.ofPairs (readings p.2 p.1.records))) data

/-- Where each channel id comes up once, that is all the readings. -/
theorem sweepData_eq {found : List (Request × List Bytes)} : ∀ {data : Dict String DecodedValue},
    (data.keys ++ ((found.map Prod.fst).flatMap Request.records).map
      ChannelDefinition.channelId).Nodup → sweepData data found = data ++ sweepReadings found := by
  induction found with
  | nil =>
      intro data _
      exact (List.append_nil data).symm
  | cons p found ih =>
      intro data hnd
      rw [List.map_cons, List.flatMap_cons, List.map_append] at hnd
      have hids : (p.1.records.map ChannelDefinition.channelId).Nodup :=
        (List.nodup_append.mp (List.nodup_append.mp hnd).2.1).1
      have hstep : sweepData data (p :: found)
          = sweepData (data ++ readings p.2 p.1.records : Dict String DecodedValue) found := by
        rw [← update_readings p.2 hnd,
          ← Dict.ofPairs_of_nodup ((readings_keys_sublist p.2 p.1.records).nodup hids)]
        rfl
      rw [hstep, ih (nodup_readings p.2 hnd), sweepReadings, sweepReadings, List.flatMap_cons,
        List.append_assoc]

/-- A read that fails has no answer to its request. It fails with a `ProtocolError` unless
the transport refused its last command or one of its own is no hexadecimal text. -/
theorem readRequest_error {tr : Trace} {e : Exc}
    (h : Path (readRequest waitingTime request) tr (.error e)) (requests : List Request) :
    sweepAnswers (request :: requests) (marks tr) = none ∧
      (e.isProtocolError = true ↔
        refusedLast tr = none ∧ ¬ Misspelt (request :: requests) (marks tr)) := by
  cases hcommand : request.requestBytes with
  | error e₁ =>
      rcases Path.handle_iff.mp h with ⟨values, hok, _⟩ | ⟨e', tr₁, tr₂, rfl, hp, hrest⟩
      · cases hok
      obtain ⟨rfl, he'⟩ := readAttempt_unhex hcommand hp
      cases he'
      have he := fromHex_not_protocolError hcommand
      rw [if_neg (by rw [he]; decide)] at hrest
      obtain ⟨rfl, hr⟩ := Path.raise_iff.mp hrest
      cases hr
      refine ⟨?_, ?_⟩
      · rw [sweepAnswers, requestCommands, hcommand]
        rfl
      · rw [Misspelt, askedCommands, hcommand, he]
        simp
  | ok command =>
      cases h₂ : request.requestBytes2 with
      | error e₂ =>
          obtain ⟨_, e', he', hiff⟩ := readLoop_unhex hcommand h₂ MAX_TRIES h
          cases he'
          have hasked : askedCommands request = some [command] := by
            rw [askedCommands, hcommand, h₂]
          refine ⟨?_, ?_⟩
          · rw [sweepAnswers, requestCommands, hcommand, Fallible.ok_bind, h₂]
            rfl
          · rw [hiff, Misspelt, hasked]
            cases hanswer : firstAnswer [command] (marks tr) with
            | none => simp [hanswer]
            | some found => simp [hanswer, h₂]
      | ok second =>
          obtain ⟨commands, hcommands⟩ : ∃ commands, requestCommands request = .ok commands := by
            rw [requestCommands, hcommand, Fallible.ok_bind, h₂, Fallible.ok_bind]
            cases second <;> exact ⟨_, rfl⟩
          have hnone := firstAnswer_eq_none (readLoop_error_marks hcommands MAX_TRIES h).2
          refine ⟨?_, ?_⟩
          · rw [sweepAnswers, hcommands]
            simp only [hnone]
          · rw [Misspelt, askedCommands_eq hcommands]
            simp only [hnone, not_false_iff, and_true]
            exact (Wary.readRequest hcommands).error_iff h

/-- A read that returns has what the frames say that answer its request. -/
theorem readRequest_ok {tr : Trace} {values : Dict String DecodedValue}
    (h : Path (readRequest waitingTime request) tr (.ok values)) :
    ∃ commands frames, requestCommands request = .ok commands ∧
      values = Dict.ofPairs (readings frames request.records) ∧ refusedLast tr = none ∧
      ∀ after, HeatpumpGateway.firstAnswer commands (marks tr ++ after) = some (frames, after) := by
  have hrun := readRequest_path h
  obtain ⟨commands, hcommands⟩ := hrun.commands
  obtain ⟨frames, _, hvalid, hdecode, _, hanswer⟩ := hrun.firstAnswer hcommands
  exact ⟨commands, frames, hcommands, decodeFrames_ofPairs hvalid hdecode,
    (Wary.readRequest hcommands).refusedLast_of_ok h, hanswer⟩

/-- The sweep goes on behind an answered request. -/
theorem sweep_cons {commands frames : List Bytes} {ms after : List Mark}
    (hcommands : requestCommands request = .ok commands)
    (hanswer : firstAnswer commands ms = some (frames, after)) (requests : List Request) :
    sweepAnswers (request :: requests) ms
        = (sweepAnswers requests after).map ((request, frames) :: ·) ∧
      (Misspelt (request :: requests) ms ↔ Misspelt requests after) := by
  refine ⟨?_, ?_⟩
  · rw [sweepAnswers, hcommands]
    simp only [hanswer]
  · rw [Misspelt, askedCommands_eq hcommands]
    simp only [hanswer, requestBytes2_of_commands hcommands, exists_false, false_or]

/-- A sweep fails at a request that is not answered, or returns what the answers to all
of its requests say. -/
theorem readRequestsFrom_outcome (requests : List Request) :
    ∀ {data : Dict String DecodedValue} {tr : Trace}
      {r : Except Exc (Dict String DecodedValue)},
      Path (readRequestsFrom waitingTime requests data) tr r →
      (∃ e, r = .error e ∧ sweepAnswers requests (marks tr) = none ∧
          (e.isProtocolError = true ↔ refusedLast tr = none ∧ ¬ Misspelt requests (marks tr))) ∨
        ∃ found, r = .ok (sweepData data found) ∧
          sweepAnswers requests (marks tr) = some found ∧ ¬ Misspelt requests (marks tr) := by
  induction requests with
  | nil =>
      intro data tr r h
      obtain ⟨rfl, rfl⟩ := Path.ret_iff.mp h
      exact .inr ⟨[], rfl, rfl, id⟩
  | cons request requests ih =>
      intro data tr r h
      rw [readRequestsFrom] at h
      rcases Path.bind_iff.mp h with ⟨e, rfl, hread⟩ | ⟨values, tr₁, tr₂, rfl, hread, hrest⟩
      · exact .inl ⟨e, rfl, readRequest_error hread requests⟩
      obtain ⟨commands, frames, hcommands, rfl, hquiet, hanswer⟩ := readRequest_ok hread
      obtain ⟨hanswers, hspelt⟩ := sweep_cons hcommands (hanswer (marks tr₂)) requests
      rw [marks_append, hanswers, hspelt, refusedLast_append_of_none hquiet]
      simp only [] at hrest
      split at hrest
      · next hnil =>
          obtain ⟨rfl, rfl⟩ := Path.ret_iff.mp hrest
          subst hnil
          exact .inr ⟨[(request, frames)], rfl, rfl, id⟩
      · obtain ⟨tr₃, rfl, hloop⟩ := path_sleep.mp hrest
        have hmarks : marks (⟨.sleep waitingTime, ()⟩ :: tr₃) = marks tr₃ := rfl
        rw [hmarks, refusedLast_sleep]
        rcases ih hloop with ⟨e, rfl, hnone, hiff⟩ | ⟨found, rfl, hfound, hspelt'⟩
        · exact .inl ⟨e, rfl, by rw [hnone]; rfl, hiff⟩
        · exact .inr ⟨(request, frames) :: found, rfl, by rw [hfound]; rfl, hspelt'⟩

theorem sweepAnswers_requests (requests : List Request) : ∀ {ms : List Mark}
    {found : List (Request × List Bytes)}, sweepAnswers requests ms = some found →
    found.map Prod.fst = requests := by
  induction requests with
  | nil =>
      intro ms found h
      cases h
      rfl
  | cons request requests ih =>
      intro ms found h
      rw [sweepAnswers] at h
      split at h
      · cases h
      · split at h
        · cases h
        · next frames rest _ =>
            obtain ⟨found', hfound', rfl⟩ := Option.map_eq_some_iff.mp h
            rw [List.map_cons, ih hfound']

/-! ## The reads of the service -/

inductive ReadCall where
  | channel (channelId : String)
  | channels (channelIds : List String)
  | all (dataTypes : List DataType)

namespace ReadCall

def talk (config : HeatPumpConfig) (waitingTime : Nat) : ReadCall → Talk (List ChannelValue)
  | channel channelId => do
      let value ← HeatPumpService.readChannel config waitingTime channelId
      return [value]
  | channels channelIds => HeatPumpService.readChannels config waitingTime channelIds
  | all dataTypes => HeatPumpService.readAll config waitingTime dataTypes

def wanted : ReadCall → ChannelDefinition → Bool
  | channel channelId, record => record.channelId = channelId
  | channels channelIds, record => record.channelId ∈ channelIds
  | all dataTypes, record => record.dataType ∈ HeatPumpService.typesOrDefault dataTypes

/-- The requests a read goes through. -/
def requests (config : HeatPumpConfig) : ReadCall → List Request
  | channel channelId => (config.requestForChannel channelId).toList
  | channels channelIds => HeatPumpService.requestsFor config channelIds
  | all dataTypes => config.requests.filter fun request =>
      request.records.any (·.dataType ∈ HeatPumpService.typesOrDefault dataTypes)

/-- All the ids asked for are known. -/
def Configured (config : HeatPumpConfig) : ReadCall → Prop
  | channel channelId => ∃ record ∈ config.channels, record.channelId = channelId
  | channels channelIds =>
      ∀ channelId ∈ channelIds, ∃ record ∈ config.channels, record.channelId = channelId
  | all _ => True

/-- One value for each wanted channel and for no other, or a `ProtocolError`. -/
def Complete (config : HeatPumpConfig) (call : ReadCall) :
    Except Exc (List ChannelValue) → Prop
  | .ok values => (values.map ChannelValue.channelId).Nodup ∧
      ∀ id, id ∈ values.map ChannelValue.channelId ↔
        ∃ record ∈ config.channels, record.channelId = id ∧ call.wanted record = true
  | .error e => e.isProtocolError = true

/-- The sweep comes to a command that is no hexadecimal text, or all its requests are
answered and the frames of one of them do not decode a wanted channel of it. -/
def Spoiled (config : HeatPumpConfig) (call : ReadCall) (ms : List Mark) : Prop :=
  Misspelt (call.requests config) ms ∨
    ∃ found, sweepAnswers (call.requests config) ms = some found ∧
      ∃ p ∈ found, ∃ record ∈ p.1.records, call.wanted record = true ∧ ¬ ReadsIn record p.2

variable {config : HeatPumpConfig} {call : ReadCall}

theorem requests_subset {request : Request} (h : request ∈ call.requests config) :
    request ∈ config.requests := by
  cases call with
  | channel channelId => exact List.mem_of_find?_eq_some (Option.mem_toList.mp h)
  | channels channelIds => exact HeatPumpConfig.requestsFor_subset channelIds h
  | all dataTypes => exact List.mem_of_mem_filter h

theorem requests_nodup (config : HeatPumpConfig) (call : ReadCall) :
    (call.requests config).Nodup := by
  cases call with
  | channel channelId =>
      rw [requests]
      cases config.requestForChannel channelId with
      | none => exact List.nodup_nil
      | some request => exact List.nodup_singleton request
  | channels channelIds => exact HeatPumpConfig.requestsFor_nodup config channelIds
  | all dataTypes =>
      exact (HeatPumpConfig.requests_keys_nodup config).of_map.filter _

theorem collect_cons {keep : ChannelDefinition → Bool} {entry : String × DecodedValue}
    {record : ChannelDefinition} (h : config.channel entry.1 = some record)
    (data : Dict String DecodedValue) :
    HeatPumpService.collect config keep (entry :: data) =
      if keep record then
        HeatPumpService.toChannelValue record entry.2 :: HeatPumpService.collect config keep data
      else HeatPumpService.collect config keep data := by
  rw [HeatPumpService.collect, List.filterMap_cons]
  simp only [h]
  cases keep record with
  | true => rfl
  | false => rfl

/-- What a single read makes of the read of its request. -/
theorem single_path {record : ChannelDefinition} {request : Request}
    (hchannel : config.channel record.channelId = some record)
    (hfind : config.requestForChannel record.channelId = some request) {tr : Trace}
    {r : Except Exc (List ChannelValue)}
    (h : Path ((channel record.channelId).talk config waitingTime) tr r) :
    ∃ r', Path (readRequest waitingTime request) tr r' ∧
      r = r'.bind fun data =>
        match data.get? record.channelId with
        | none => .error (.channelNotFound record.channelId)
        | some value => .ok [HeatPumpService.toChannelValue record value] := by
  have hrequire : HeatPumpService.requireChannel config record.channelId = .ok record := by
    rw [HeatPumpService.requireChannel, hchannel]
  rw [talk, HeatPumpService.readChannel, HeatPumpService.prepareReadChannel, hrequire] at h
  simp only [Fallible.ok_bind, Fallible.pure_eq, HeatPumpService.perform, hfind] at h
  rcases Path.bind_iff.mp h with ⟨e, rfl, hread⟩ | ⟨value, tr₁, tr₂, rfl, hread, hret⟩
  · rcases Path.bind_iff.mp hread with ⟨_, he, hp⟩ | ⟨data, tr₁, tr₂, rfl, hp, hlast⟩
    · cases he
      exact ⟨_, hp, rfl⟩
    · split at hlast
      · next hnone =>
          obtain ⟨rfl, he⟩ := Path.raise_iff.mp hlast
          cases he
          rw [List.append_nil]
          refine ⟨_, hp, ?_⟩
          rw [Except.bind, hnone]
      · cases (Path.ret_iff.mp hlast).2
  · obtain ⟨data, tr₃, tr₄, rfl, hp, hlast⟩ := Path.bind_ok hread
    obtain ⟨rfl, rfl⟩ := Path.ret_iff.mp hret
    split at hlast
    · cases (Path.raise_iff.mp hlast).2
    · next hsome =>
        obtain ⟨rfl, he⟩ := Path.ret_iff.mp hlast
        cases he
        rw [List.append_nil, List.append_nil]
        refine ⟨_, hp, ?_⟩
        rw [Except.bind, hsome]

theorem channels_known {channelIds : List String} (h : (channels channelIds).Configured config)
    (hids : (config.channels.map ChannelDefinition.channelId).Nodup) :
    (channelIds.filter fun channelId => (config.channel channelId).isNone) = [] := by
  rw [List.filter_eq_nil_iff]
  intro channelId hin
  obtain ⟨record, hrecord, rfl⟩ := h channelId hin
  rw [HeatPumpConfig.channel_of_mem hids hrecord, Option.isNone_some]
  exact Bool.false_ne_true

section ids

variable (hids : (config.channels.map ChannelDefinition.channelId).Nodup)
include hids

/-- Every wanted channel is read with one of the requests. -/
theorem requests_cover {record : ChannelDefinition} (h : record ∈ config.channels)
    (hwanted : call.wanted record = true) :
    ∃ request ∈ call.requests config, record ∈ request.records := by
  obtain ⟨request, hrequest, _, hin⟩ := HeatPumpConfig.exists_request_of_channel h
  have hfind := HeatPumpConfig.requestForChannel_eq hids hrequest hin
  cases call with
  | channel channelId =>
      obtain rfl := of_decide_eq_true hwanted
      exact ⟨request, Option.mem_toList.mpr hfind, hin⟩
  | channels channelIds =>
      exact ⟨request, HeatPumpConfig.mem_requestsFor hfind (of_decide_eq_true hwanted), hin⟩
  | all dataTypes =>
      exact ⟨request, List.mem_filter.mpr ⟨hrequest, List.any_eq_true.mpr ⟨record, hin, hwanted⟩⟩,
        hin⟩

/-- The ids a sweep hands out are those of the wanted channels its frames decode. -/
theorem collect_ids {found : List (Request × List Bytes)}
    (hfound : found.map Prod.fst = call.requests config) :
    ((HeatPumpService.collect config call.wanted (sweepReadings found)).map
        ChannelValue.channelId).Nodup ∧
      ∀ id, id ∈ (HeatPumpService.collect config call.wanted (sweepReadings found)).map
          ChannelValue.channelId ↔
        ∃ p ∈ found, ∃ record ∈ p.1.records, record.channelId = id ∧
          call.wanted record = true ∧ Readable p.2 record := by
  have hsub : ∀ p ∈ found, p.1 ∈ config.requests := by
    intro p hp
    exact requests_subset (hfound ▸ List.mem_map_of_mem hp)
  have hkeys : (sweepReadings found).keys.Nodup := by
    have hall := HeatPumpConfig.flatMap_records_ids_nodup hids (requests_nodup config call)
      fun _ hin => requests_subset hin
    refine List.Sublist.nodup ?_ hall
    rw [← hfound]
    clear hall hsub hfound
    induction found with
    | nil => exact List.Sublist.slnil
    | cons p found ih =>
        rw [sweepReadings, List.flatMap_cons, Dict.keys, List.map_append, List.map_cons,
          List.flatMap_cons, List.map_append]
        exact (readings_keys_sublist p.2 p.1.records).append ih
  have hentry : ∀ entry ∈ sweepReadings found, ∃ record, config.channel entry.1 = some record ∧
      record.channelId = entry.1 := by
    intro entry hentry
    obtain ⟨p, hp, hin⟩ := List.mem_flatMap.mp hentry
    obtain ⟨record, hrecord, hid, _⟩ := mem_readings_keys.mp (List.mem_map_of_mem hin)
    have hchannel := ((HeatPumpConfig.mem_records (hsub p hp)).mp hrecord).1
    exact ⟨record, hid ▸ HeatPumpConfig.channel_of_mem hids hchannel, hid⟩
  refine ⟨?_, fun id => ?_⟩
  · refine List.Sublist.nodup ?_ hkeys
    generalize sweepReadings found = data at hentry
    induction data with
    | nil => exact List.Sublist.slnil
    | cons entry data ih =>
        obtain ⟨record, hrecord, hid⟩ := hentry entry List.mem_cons_self
        have hrest := ih fun entry' h => hentry entry' (List.mem_cons_of_mem _ h)
        rw [collect_cons hrecord]
        split
        · rw [List.map_cons, Dict.keys, List.map_cons, HeatPumpService.toChannelValue, hid]
          exact hrest.cons_cons _
        · exact hrest.cons _
  · simp only [HeatPumpService.collect, List.mem_map, List.mem_filterMap]
    refine ⟨?_, ?_⟩
    · intro hc
      obtain ⟨value, ⟨entry, hin, hkeep⟩, rfl⟩ := hc
      obtain ⟨record, hrecord, hid⟩ := hentry entry hin
      rw [hrecord] at hkeep
      obtain ⟨p, hp, hread⟩ := List.mem_flatMap.mp hin
      obtain ⟨record', hrecord', hid', hreadable⟩ :=
        mem_readings_keys.mp (List.mem_map_of_mem hread)
      obtain rfl : record' = record := by
        have hchannel := ((HeatPumpConfig.mem_records (hsub p hp)).mp hrecord').1
        have hfind := HeatPumpConfig.channel_of_mem hids hchannel
        rw [hid', hrecord] at hfind
        exact (Option.some.inj hfind).symm
      simp only at hkeep
      split at hkeep
      · next hwanted =>
          cases hkeep
          exact ⟨p, hp, record', hrecord', rfl, hwanted, hreadable⟩
      · cases hkeep
    · intro hc
      obtain ⟨p, hp, record, hrecord, rfl, hwanted, hreadable⟩ := hc
      obtain ⟨entry, hin, hid⟩ :=
        List.mem_map.mp (mem_readings_keys.mpr ⟨record, hrecord, rfl, hreadable⟩)
      have hchannel := ((HeatPumpConfig.mem_records (hsub p hp)).mp hrecord).1
      refine ⟨HeatPumpService.toChannelValue record entry.2,
        ⟨entry, List.mem_flatMap.mpr ⟨p, hp, hin⟩, ?_⟩, rfl⟩
      rw [hid, HeatPumpConfig.channel_of_mem hids hchannel]
      simp only [hwanted, if_true]

/-- A sweep's result is complete when none of its frames leaves a wanted channel out. -/
theorem complete_collect_iff {found : List (Request × List Bytes)}
    (hfound : found.map Prod.fst = call.requests config) :
    call.Complete config
        (.ok (HeatPumpService.collect config call.wanted (sweepReadings found))) ↔
      ¬ ∃ p ∈ found, ∃ record ∈ p.1.records, call.wanted record = true ∧
        ¬ Readable p.2 record := by
  obtain ⟨hnodup, hmem⟩ := collect_ids hids hfound
  have hin : ∀ p ∈ found, p.1 ∈ call.requests config :=
    fun p hp => hfound ▸ List.mem_map_of_mem hp
  have hchannel : ∀ p ∈ found, ∀ record ∈ p.1.records, record ∈ config.channels :=
    fun p hp record hrecord =>
      ((HeatPumpConfig.mem_records (requests_subset (hin p hp))).mp hrecord).1
  refine ⟨?_, ?_⟩
  · intro hc hmissing
    obtain ⟨p, hp, record, hrecord, hwanted, hunreadable⟩ := hmissing
    obtain ⟨p', hp', record', hrecord', hid, _, hreadable⟩ := (hmem record.channelId).mp
      ((hc.2 record.channelId).mpr ⟨record, hchannel p hp record hrecord, rfl, hwanted⟩)
    obtain rfl := HeatPumpConfig.record_unique hids (hchannel p' hp' record' hrecord')
      (hchannel p hp record hrecord) hid
    have hrequest : p'.1 = p.1 := HeatPumpConfig.request_unique (requests_subset (hin p' hp'))
      (requests_subset (hin p hp)) hrecord' hrecord
    obtain rfl := List.inj_on_of_nodup_map (hfound ▸ requests_nodup config call) hp' hp hrequest
    exact hunreadable hreadable
  · intro hall
    refine ⟨hnodup, fun id => (hmem id).trans ⟨?_, ?_⟩⟩
    · intro hc
      obtain ⟨p, hp, record, hrecord, hid, hwanted, _⟩ := hc
      exact ⟨record, hchannel p hp record hrecord, hid, hwanted⟩
    · intro hc
      obtain ⟨record, hrecord, hid, hwanted⟩ := hc
      obtain ⟨request, hrequest, hin'⟩ := requests_cover hids hrecord hwanted
      rw [← hfound] at hrequest
      obtain ⟨p, hp, rfl⟩ := List.mem_map.mp hrequest
      refine ⟨p, hp, record, hin', hid, hwanted, ?_⟩
      by_contra hunreadable
      exact hall ⟨p, hp, record, hin', hwanted, hunreadable⟩

/-- The two reads that sweep over several requests. -/
theorem sweep_complete_iff {tr : Trace} {r : Except Exc (List ChannelValue)} (htr : Obliging tr)
    (h : Path (do
      let data ← readRequests waitingTime (call.requests config)
      return HeatPumpService.collect config call.wanted data) tr r) :
    call.Complete config r ↔ ¬ call.Spoiled config (marks tr) := by
  rw [Spoiled]
  rcases Path.bind_iff.mp h with ⟨e, rfl, hread⟩ | ⟨data, tr₁, tr₂, rfl, hread, hret⟩
  · rcases readRequestsFrom_outcome _ hread with ⟨_, he, hnone, hiff⟩ | ⟨_, hok, _⟩
    · cases he
      rw [hnone]
      simpa [Complete, htr.refusedLast] using hiff
    · cases hok
  · obtain ⟨rfl, rfl⟩ := Path.ret_iff.mp hret
    rw [List.append_nil] at htr ⊢
    rcases readRequestsFrom_outcome _ hread with ⟨_, he, _⟩ | ⟨found, hok, hfound, hspelt⟩
    · cases he
    · cases hok
      have hrequests := sweepAnswers_requests _ hfound
      have hnd : ((Dict.keys ([] : Dict String DecodedValue)) ++
          ((found.map Prod.fst).flatMap Request.records).map ChannelDefinition.channelId).Nodup :=
        HeatPumpConfig.flatMap_records_ids_nodup hids (hrequests ▸ requests_nodup config call)
          fun _ hin => requests_subset (hrequests ▸ hin)
      rw [sweepData_eq hnd, List.nil_append, complete_collect_iff hids hrequests, hfound]
      simp [hspelt, readable_iff]

theorem single_complete_iff {channelId : String} {record : ChannelDefinition}
    (hrecord : record ∈ config.channels) (hid : record.channelId = channelId) {tr : Trace}
    {r : Except Exc (List ChannelValue)} (htr : Obliging tr)
    (h : Path ((channel channelId).talk config waitingTime) tr r) :
    (channel channelId).Complete config r ↔
      ¬ (channel channelId).Spoiled config (marks tr) := by
  subst hid
  obtain ⟨request, hrequest, _, hin⟩ := HeatPumpConfig.exists_request_of_channel hrecord
  have hfind := HeatPumpConfig.requestForChannel_eq hids hrequest hin
  have hrequests : (channel record.channelId).requests config = [request] := by
    rw [requests, hfind]
    rfl
  have hnodup : (request.records.map ChannelDefinition.channelId).Nodup :=
    HeatPumpConfig.records_ids_nodup hids hrequest
  obtain ⟨r', hread, hr⟩ := single_path (HeatPumpConfig.channel_of_mem hids hrecord) hfind h
  rw [Spoiled, hrequests]
  cases r' with
  | error e =>
      obtain ⟨hnone, hiff⟩ := readRequest_error hread []
      subst hr
      rw [hnone, Except.bind, Complete, hiff]
      simp [htr.refusedLast]
  | ok values =>
      obtain ⟨commands, frames, hcommands, rfl, _, hanswer⟩ := readRequest_ok hread
      have hhere := hanswer []
      rw [List.append_nil] at hhere
      obtain ⟨hanswers, hspelt⟩ := sweep_cons hcommands hhere []
      have honly : (∃ p ∈ [(request, frames)], ∃ record' ∈ p.1.records,
          (channel record.channelId).wanted record' = true ∧ ¬ ReadsIn record' p.2) ↔
            ¬ Readable frames record := by
        rw [readable_iff]
        refine ⟨?_, ?_⟩
        · intro hc
          obtain ⟨p, hp, record', hrecord', hwanted, hunreadable⟩ := hc
          obtain rfl := List.mem_singleton.mp hp
          obtain rfl := HeatPumpConfig.record_unique hids
            ((HeatPumpConfig.mem_records hrequest).mp hrecord').1 hrecord
            (of_decide_eq_true hwanted)
          exact hunreadable
        · intro hc
          exact ⟨_, List.mem_singleton_self _, record, hin, decide_eq_true rfl, hc⟩
      have hfound : sweepAnswers [request] (marks tr) = some [(request, frames)] := hanswers
      rw [hfound, hspelt, Misspelt, false_or]
      simp only [Option.some.injEq, exists_eq_left', honly, not_not]
      subst hr
      rw [Except.bind, Dict.ofPairs_of_nodup
        ((readings_keys_sublist frames request.records).nodup hnodup)]
      cases hvalue : (readings frames request.records).get? record.channelId with
      | none =>
          refine iff_of_false (fun hc => by cases hc) fun hc => ?_
          exact Dict.get?_eq_none_iff.mp hvalue (mem_readings_keys.mpr ⟨record, hin, rfl, hc⟩)
      | some value =>
          refine iff_of_true ⟨List.nodup_singleton _, fun id => ?_⟩ ?_
          · refine ⟨fun hc => ?_, fun hc => ?_⟩
            · exact ⟨record, hrecord, (List.mem_singleton.mp hc).symm, decide_eq_true rfl⟩
            · obtain ⟨record', _, rfl, hwanted⟩ := hc
              exact List.mem_singleton.mpr (of_decide_eq_true hwanted)
          · obtain ⟨record', hrecord', hid, hreadable⟩ := mem_readings_keys.mp
              (List.mem_map_of_mem (Dict.mem_of_get? hvalue))
            obtain rfl := HeatPumpConfig.record_unique hids
              ((HeatPumpConfig.mem_records hrequest).mp hrecord').1 hrecord hid
            exact hreadable

/-- On a transport that delivers bytes or none, a read is complete exactly when its sweep
is not spoiled. -/
theorem read_complete_iff (hconfigured : call.Configured config) {tr : Trace}
    {r : Except Exc (List ChannelValue)} (htr : Obliging tr)
    (h : Path (call.talk config waitingTime) tr r) :
    call.Complete config r ↔ ¬ call.Spoiled config (marks tr) := by
  cases call with
  | channel channelId =>
      obtain ⟨record, hrecord, hid⟩ := hconfigured
      exact single_complete_iff hids hrecord hid htr h
  | channels channelIds =>
      refine @sweep_complete_iff waitingTime config _ hids tr r htr ?_
      rw [talk, HeatPumpService.readChannels, HeatPumpService.prepareReadChannels,
        if_neg (by rw [channels_known hconfigured hids]; exact fun hc => hc rfl)] at h
      exact h
  | all dataTypes => exact sweep_complete_iff hids htr h

end ids

theorem roomTempConfig_ids : (roomTempConfig.channels.map ChannelDefinition.channelId).Nodup :=
  List.nodup_singleton _

theorem roomTemp_configured : (channel "p01RoomTempDay").Configured roomTempConfig :=
  ⟨roomTempDay, List.mem_singleton_self _, rfl⟩

def roomTempRead : Talk (List ChannelValue) :=
  (channel "p01RoomTempDay").talk roomTempConfig 0

theorem roomTempRead_path :
    Path roomTempRead (trace scripted roomTempRead ServiceCall.shortReplyScript)
      (.error (.channelNotFound "p01RoomTempDay")) :=
  path_of_run scripted (by decide +kernel)

def roomTempRegister : Request :=
  { requestByte := "0B0005", requestByte2 := none, records := [roomTempDay] }

/-- The register at 21 degrees. -/
def twentyOne : Bytes := [0x01, 0x00, 0xE3, 0x0B, 0x00, 0x05, 0x00, 0xD2, 0x10, 0x03]

def answeredScript : List (Option UInt8) := ([0x10, 0x10, 0x02] ++ twentyOne).map some

theorem read_complete_roomTemp :
    (channel "p01RoomTempDay").Complete roomTempConfig
      (.ok [HeatPumpService.toChannelValue roomTempDay (.float (.finite 21))]) := by
  have hpath : Path roomTempRead (trace scripted roomTempRead answeredScript)
      (.ok [HeatPumpService.toChannelValue roomTempDay (.float (.finite 21))]) :=
    path_of_run scripted (by decide +kernel)
  have hrequests : (channel "p01RoomTempDay").requests roomTempConfig = [roomTempRegister] := by
    decide +kernel
  have hcommands : requestCommands roomTempRegister = .ok [[0x0B, 0x00, 0x05]] := by
    decide +kernel
  have hanswer : firstAnswer [[0x0B, 0x00, 0x05]]
      (marks (trace scripted roomTempRead answeredScript)) = some ([twentyOne], []) := by
    decide +kernel
  obtain ⟨hanswers, hspelt⟩ := sweep_cons hcommands hanswer []
  refine (read_complete_iff roomTempConfig_ids roomTemp_configured (by decide +kernel) hpath).mpr ?_
  rw [Spoiled, hrequests, hanswers, hspelt]
  have hreads : ReadsIn roomTempDay [twentyOne] := by decide +kernel
  simp [Misspelt, sweepAnswers, roomTempRegister, hreads]

/-- A configured channel is reported as unknown, and is missing from a list. -/
theorem configured_channel_unknown :
    (∃ tr, Obliging tr ∧ Path roomTempRead tr (.error (.channelNotFound "p01RoomTempDay")) ∧
        ¬ (channel "p01RoomTempDay").Complete roomTempConfig
          (.error (.channelNotFound "p01RoomTempDay"))) ∧
      ∃ tr, Obliging tr ∧
        Path ((channels ["p01RoomTempDay"]).talk roomTempConfig 0) tr (.ok []) ∧
        ¬ (channels ["p01RoomTempDay"]).Complete roomTempConfig (.ok []) := by
  refine ⟨⟨_, by decide +kernel, roomTempRead_path, fun hc => by cases hc⟩, ?_⟩
  have hrun : (run scripted ((channels ["p01RoomTempDay"]).talk roomTempConfig 0)
      ServiceCall.shortReplyScript).1 = .ok [] := by decide +kernel
  refine ⟨_, by decide +kernel, path_of_run scripted hrun, fun hc => ?_⟩
  exact List.not_mem_nil ((hc.2 "p01RoomTempDay").mpr
    ⟨roomTempDay, List.mem_singleton_self _, rfl, by decide +kernel⟩)

end ReadCall

end HeatpumpGateway
