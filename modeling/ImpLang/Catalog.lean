import ImpLang.Stmt

/-!
# Sample programs

A catalog of small programs that show the language at work.
-/

namespace ImpLang

structure Sample where
  description : String
  program : Program
  deriving DecidableEq, Repr

/-- A sample goes by the name of its program. -/
def Sample.name (sample : Sample) : String :=
  sample.program.name

namespace Catalog

def assign : Program where
  name := "assign"
  vars := [⟨"x"⟩, ⟨"y"⟩]
  body := .block [
    .assign ⟨"x"⟩ (.int 1),
    .assign ⟨"y"⟩ (.add (.named "x") (.int 2))]

def whileSum : Program where
  name := "while_sum"
  vars := [⟨"i"⟩, ⟨"sum"⟩]
  body := .block [
    .whileDo (.le (.named "i") (.int 10)) (.block [
      .assign ⟨"sum"⟩ (.add (.named "sum") (.named "i")),
      .assign ⟨"i"⟩ (.add (.named "i") (.int 1))]),
    .writeNum (.named "sum")]

def forSum : Program where
  name := "for_sum"
  vars := [⟨"sum"⟩]
  body := .block [
    .forTo ⟨"i"⟩ (.int 0) (.int 10) (.assign ⟨"sum"⟩ (.add (.named "sum") (.named "i"))),
    .writeNum (.named "sum")]

def conditional : Program where
  name := "conditional"
  vars := [⟨"result"⟩]
  body := .block [
    .ifThenElse (.lt (.int 10) (.int 15))
      (.assign ⟨"result"⟩ (.int 10))
      (.assign ⟨"result"⟩ (.int 11)),
    .writeNum (.named "result")]

def negation : Program where
  name := "negation"
  vars := []
  body :=
    .ifThenElse (.not (.and (.bool true) (.bool false)))
      (.writeStr "true")
      (.writeStr "false")

/-- Assigns a truth value, which is a fault. -/
def typeError : Program where
  name := "type_error"
  vars := [⟨"x"⟩]
  body := .assign ⟨"x"⟩ (.bool true)

def factorial : Program where
  name := "factorial"
  vars := [⟨"n"⟩, ⟨"f"⟩]
  body := .block [
    .writeStr "n?",
    .readNum ⟨"n"⟩,
    .assign ⟨"f"⟩ (.int 1),
    .forTo ⟨"i"⟩ (.int 1) (.named "n") (.assign ⟨"f"⟩ (.mul (.named "f") (.named "i"))),
    .writeNum (.named "f")]

def countdown : Program where
  name := "countdown"
  vars := [⟨"n"⟩]
  body := .block [
    .assign ⟨"n"⟩ (.int 5),
    .repeatUntil (.block [
        .writeNum (.named "n"),
        .assign ⟨"n"⟩ (.sub (.named "n") (.int 1))])
      (.eq (.named "n") (.int 0)),
    .writeStr "liftoff"]

def doubling : Program where
  name := "doubling"
  vars := [⟨"x"⟩]
  body := .block [
    .assign ⟨"x"⟩ (.int 1),
    .doWhile (.block [
        .assign ⟨"x"⟩ (.mul (.named "x") (.int 2)),
        .writeNum (.named "x")])
      (.lt (.named "x") (.int 100))]

def gcd : Program where
  name := "gcd"
  vars := [⟨"a"⟩, ⟨"b"⟩, ⟨"t"⟩]
  body := .block [
    .readNum ⟨"a"⟩,
    .readNum ⟨"b"⟩,
    .whileDo (.not (.eq (.named "b") (.int 0))) (.block [
      .assign ⟨"t"⟩ (.mod (.named "a") (.named "b")),
      .assign ⟨"a"⟩ (.named "b"),
      .assign ⟨"b"⟩ (.named "t")]),
    .writeNum (.named "a")]

def table : Program where
  name := "table"
  vars := []
  body :=
    .forTo ⟨"i"⟩ (.int 1) (.int 3)
      (.forTo ⟨"j"⟩ (.int 1) (.int 3) (.writeNum (.mul (.named "i") (.named "j"))))

def all : List Sample := [
  ⟨"x := 1; y := x + 2", assign⟩,
  ⟨"sum 0..10 with a while loop", whileSum⟩,
  ⟨"sum 0..10 with a for loop", forSum⟩,
  ⟨"if 10 < 15 then result := 10 else result := 11", conditional⟩,
  ⟨"branch on not (true and false)", negation⟩,
  ⟨"x := true, rejected at run time", typeError⟩,
  ⟨"read n and write n!", factorial⟩,
  ⟨"count down from 5 with repeat-until", countdown⟩,
  ⟨"double from 1 while below 100 with do-while", doubling⟩,
  ⟨"read two numbers and write their gcd", gcd⟩,
  ⟨"3x3 multiplication table with nested for loops", table⟩]

def find? (name : String) : Option Sample :=
  all.find? fun sample => sample.name == name

end Catalog

end ImpLang
