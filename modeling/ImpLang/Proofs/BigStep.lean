import ImpLang.Proofs.Ending

/-!
# Big-step semantics

`BigStep` gives the meaning of statements by rules, without fuel, events or consoles: from a store
and a source of lines to an ending, the lines printed on the way and the source left over. A loop is
explained by itself, after one round. The rules say nothing of limits, so they are for runs without
one.
-/

namespace ImpLang

/-- What the rules speak of: a statement, or a counting loop whose counter is set. -/
inductive Task where
  | stmt (s : Stmt)
  | count (counter : Name) (high : Expr) (body : Stmt)

/-- `BigStep prompt task store source ending output rest`: the task, begun with this store and
source, ends so, has printed the output and leaves the rest of the source. -/
inductive BigStep (prompt : String) :
    Task → Store → Source → Ending → Array Line → Source → Prop
  | skip {store source} : BigStep prompt (.stmt .skip) store source (.done store) #[] source
  | assign {target value store source n}
      (evaluated : value.evalInt store (.assignment target) = .ok n) :
      BigStep prompt (.stmt (.assign target value)) store source (.done (store.bind target n)) #[]
        source
  | assignFails {target value store source fault}
      (evaluated : value.evalInt store (.assignment target) = .error fault) :
      BigStep prompt (.stmt (.assign target value)) store source (.failed fault) #[] source
  | seq {first second store source middle shown between ending output rest}
      (ran : BigStep prompt (.stmt first) store source (.done middle) shown between)
      (goesOn : BigStep prompt (.stmt second) middle between ending output rest) :
      BigStep prompt (.stmt (.seq first second)) store source ending (shown ++ output) rest
  | seqFails {first second store source fault output rest}
      (failed : BigStep prompt (.stmt first) store source (.failed fault) output rest) :
      BigStep prompt (.stmt (.seq first second)) store source (.failed fault) output rest
  | ifThenElseYes {cond yes no store source ending output rest}
      (tested : cond.evalBool store (.statement .ifThenElse) = .ok true)
      (ran : BigStep prompt (.stmt yes) store source ending output rest) :
      BigStep prompt (.stmt (.ifThenElse cond yes no)) store source ending output rest
  | ifThenElseNo {cond yes no store source ending output rest}
      (tested : cond.evalBool store (.statement .ifThenElse) = .ok false)
      (ran : BigStep prompt (.stmt no) store source ending output rest) :
      BigStep prompt (.stmt (.ifThenElse cond yes no)) store source ending output rest
  | ifThenElseFails {cond yes no store source fault}
      (tested : cond.evalBool store (.statement .ifThenElse) = .error fault) :
      BigStep prompt (.stmt (.ifThenElse cond yes no)) store source (.failed fault) #[] source
  | ifThenYes {cond body store source ending output rest}
      (tested : cond.evalBool store (.statement .ifThen) = .ok true)
      (ran : BigStep prompt (.stmt body) store source ending output rest) :
      BigStep prompt (.stmt (.ifThen cond body)) store source ending output rest
  | ifThenNo {cond body store source}
      (tested : cond.evalBool store (.statement .ifThen) = .ok false) :
      BigStep prompt (.stmt (.ifThen cond body)) store source (.done store) #[] source
  | ifThenFails {cond body store source fault}
      (tested : cond.evalBool store (.statement .ifThen) = .error fault) :
      BigStep prompt (.stmt (.ifThen cond body)) store source (.failed fault) #[] source
  | whileFails {cond body store source fault}
      (tested : cond.evalBool store (.statement .whileDo) = .error fault) :
      BigStep prompt (.stmt (.whileDo cond body)) store source (.failed fault) #[] source
  | whileStop {cond body store source}
      (tested : cond.evalBool store (.statement .whileDo) = .ok false) :
      BigStep prompt (.stmt (.whileDo cond body)) store source (.done store) #[] source
  | whileBodyFails {cond body store source fault output rest}
      (tested : cond.evalBool store (.statement .whileDo) = .ok true)
      (failed : BigStep prompt (.stmt body) store source (.failed fault) output rest) :
      BigStep prompt (.stmt (.whileDo cond body)) store source (.failed fault) output rest
  | whileAgain {cond body store source middle shown between ending output rest}
      (tested : cond.evalBool store (.statement .whileDo) = .ok true)
      (ran : BigStep prompt (.stmt body) store source (.done middle) shown between)
      (again : BigStep prompt (.stmt (.whileDo cond body)) middle between ending output rest) :
      BigStep prompt (.stmt (.whileDo cond body)) store source ending (shown ++ output) rest
  | repeatBodyFails {body cond store source fault output rest}
      (failed : BigStep prompt (.stmt body) store source (.failed fault) output rest) :
      BigStep prompt (.stmt (.repeatUntil body cond)) store source (.failed fault) output rest
  | repeatFails {body cond store source middle fault output rest}
      (ran : BigStep prompt (.stmt body) store source (.done middle) output rest)
      (tested : cond.evalBool middle (.statement .repeatUntil) = .error fault) :
      BigStep prompt (.stmt (.repeatUntil body cond)) store source (.failed fault) output rest
  | repeatStop {body cond store source middle output rest}
      (ran : BigStep prompt (.stmt body) store source (.done middle) output rest)
      (tested : cond.evalBool middle (.statement .repeatUntil) = .ok true) :
      BigStep prompt (.stmt (.repeatUntil body cond)) store source (.done middle) output rest
  | repeatAgain {body cond store source middle shown between ending output rest}
      (ran : BigStep prompt (.stmt body) store source (.done middle) shown between)
      (tested : cond.evalBool middle (.statement .repeatUntil) = .ok false)
      (again : BigStep prompt (.stmt (.repeatUntil body cond)) middle between ending output rest) :
      BigStep prompt (.stmt (.repeatUntil body cond)) store source ending (shown ++ output) rest
  | doBodyFails {body cond store source fault output rest}
      (failed : BigStep prompt (.stmt body) store source (.failed fault) output rest) :
      BigStep prompt (.stmt (.doWhile body cond)) store source (.failed fault) output rest
  | doFails {body cond store source middle fault output rest}
      (ran : BigStep prompt (.stmt body) store source (.done middle) output rest)
      (tested : cond.evalBool middle (.statement .doWhile) = .error fault) :
      BigStep prompt (.stmt (.doWhile body cond)) store source (.failed fault) output rest
  | doStop {body cond store source middle output rest}
      (ran : BigStep prompt (.stmt body) store source (.done middle) output rest)
      (tested : cond.evalBool middle (.statement .doWhile) = .ok false) :
      BigStep prompt (.stmt (.doWhile body cond)) store source (.done middle) output rest
  | doAgain {body cond store source middle shown between ending output rest}
      (ran : BigStep prompt (.stmt body) store source (.done middle) shown between)
      (tested : cond.evalBool middle (.statement .doWhile) = .ok true)
      (again : BigStep prompt (.stmt (.doWhile body cond)) middle between ending output rest) :
      BigStep prompt (.stmt (.doWhile body cond)) store source ending (shown ++ output) rest
  | forFails {counter low high body store source fault}
      (evaluated : low.evalInt store (.statement .forTo) = .error fault) :
      BigStep prompt (.stmt (.forTo counter low high body)) store source (.failed fault) #[] source
  | forStart {counter low high body store source start ending output rest}
      (evaluated : low.evalInt store (.statement .forTo) = .ok start)
      (counts : BigStep prompt (.count counter high body) (store.bind counter start) source ending
        output rest) :
      BigStep prompt (.stmt (.forTo counter low high body)) store source ending output rest
  | countFails {counter high body store source current fault}
      (counted : store.get? counter = some current)
      (evaluated : high.evalInt store (.statement .forTo) = .error fault) :
      BigStep prompt (.count counter high body) store source (.failed fault) #[] source
  | countStop {counter high body store source current bound}
      (counted : store.get? counter = some current)
      (evaluated : high.evalInt store (.statement .forTo) = .ok bound) (above : bound < current) :
      BigStep prompt (.count counter high body) store source (.done store) #[] source
  | countBodyFails {counter high body store source current bound fault output rest}
      (counted : store.get? counter = some current)
      (evaluated : high.evalInt store (.statement .forTo) = .ok bound) (within : current ≤ bound)
      (failed : BigStep prompt (.stmt body) store source (.failed fault) output rest) :
      BigStep prompt (.count counter high body) store source (.failed fault) output rest
  /-- The counter is read again after the body, which may have changed it. -/
  | countOverflows {counter high body store source current bound middle last fault output rest}
      (counted : store.get? counter = some current)
      (evaluated : high.evalInt store (.statement .forTo) = .ok bound) (within : current ≤ bound)
      (ran : BigStep prompt (.stmt body) store source (.done middle) output rest)
      (recounted : middle.get? counter = some last)
      (increased : ArithOp.add.apply last 1 = .error fault) :
      BigStep prompt (.count counter high body) store source (.failed fault) output rest
  | countAgain {counter high body store source current bound middle last next shown between ending
      output rest}
      (counted : store.get? counter = some current)
      (evaluated : high.evalInt store (.statement .forTo) = .ok bound) (within : current ≤ bound)
      (ran : BigStep prompt (.stmt body) store source (.done middle) shown between)
      (recounted : middle.get? counter = some last)
      (increased : ArithOp.add.apply last 1 = .ok next)
      (again : BigStep prompt (.count counter high body) (middle.bind counter next) between ending
        output rest) :
      BigStep prompt (.count counter high body) store source ending (shown ++ output) rest
  | readClosed {target store source} (closed : source.next? = none) :
      BigStep prompt (.stmt (.readNum target)) store source (.failed (.inputClosed target)) #[]
        source
  | readAccept {target store source line rest n} (taken : source.next? = some (line, rest))
      (number : Numeral.signed (Text.trim line) = .ok n) :
      BigStep prompt (.stmt (.readNum target)) store source (.done (store.bind target n)) #[] rest
  | readRefuse {target store source line between defect ending output rest}
      (taken : source.next? = some (line, between))
      (defective : Numeral.signed (Text.trim line) = .error defect)
      (again : BigStep prompt (.stmt (.readNum target)) store between ending output rest) :
      BigStep prompt (.stmt (.readNum target)) store source ending (#[.prompt prompt] ++ output)
        rest
  | writeNum {value store source n}
      (evaluated : value.evalInt store (.statement .writeNum) = .ok n) :
      BigStep prompt (.stmt (.writeNum value)) store source (.done store)
        #[.written (Numeral.render n.toInt)] source
  | writeNumFails {value store source fault}
      (evaluated : value.evalInt store (.statement .writeNum) = .error fault) :
      BigStep prompt (.stmt (.writeNum value)) store source (.failed fault) #[] source
  | writeStr {text store source} :
      BigStep prompt (.stmt (.writeStr text)) store source (.done store) #[.written text] source

end ImpLang
