import ReactiveContract.Artifact
import ReactiveContract.Contract.Plan
import ReactiveContract.Solidity.Library
/-! The source text of planned contracts. -/
namespace ReactiveContract.Plan
open Solidity

def pragma : String := ">=0.8.0"

/-- The lines that record the subscriptions, each of them after an empty line. -/
def subscriptionLines (p : Plan) : List String :=
  p.subscriptions.flatMap fun s => "" :: s.render

def constructorBody (p : Plan) : List String :=
  (if p.pausableTable.isSome then ["paused = false;"] else [])
  ++ (match p.owner with
    | some a => [s!"owner = {a.text};"]
    | none => [])
  ++ ["bool subscription_failed = false;"]
  ++ p.subscriptionLines
  ++ ["", "vm = subscription_failed;"]

/-- The guard on the emitter of a log, then the dispatch. -/
def reactBody (p : Plan) : List String :=
  (if p.allowList.isSome then (AllowList.guard "_contract").render else [])
  ++ p.dispatch.render

def constants (p : Plan) : List Constant :=
  p.eventConstants ++ (match p.allowList with
    | some l => l.constants
    | none => [])

/-- The functions beside the reaction, as blocks of lines. -/
def helperBlocks (p : Plan) : List (List String) :=
  (p.pausableTable.map SubscriptionTable.render).toList
  ++ (p.allowList.bind AllowList.render?).toList

/-- The blocks with empty lines around them. -/
def helpers (p : Plan) : String :=
  match p.helperBlocks with
  | [] => ""
  | blocks =>
    "\n" ++ "\n\n".intercalate (blocks.map fun lines => joinLines (indent 1 lines)) ++ "\n"

/-- Everything up to the contract itself. -/
def preamble : String :=
  joinLines ["// SPDX-License-Identifier: GPL-2.0-or-later", s!"pragma solidity {pragma};", "",
    library]

/-- The contract after the base library. -/
def contractText (p : Plan) : String :=
  joinLines [
    s!"contract {p.contractName} is {p.baseContract} \x7b",
    s!"    uint256 private constant ORIGIN_CHAIN_ID = {p.originChainId};",
    s!"    uint256 private constant DESTINATION_CHAIN_ID = {p.destinationChainId};",
    joinLines (indent 1 (p.originConstants.map Constant.render)),
    s!"    address private constant DESTINATION_CONTRACT = {p.destination.text};",
    s!"    uint64 private constant CALLBACK_GAS_LIMIT = {p.callbackGasLimit};",
    "",
    joinLines (indent 1 (p.constants.map Constant.render)),
    "",
    "    constructor() \x7b",
    joinLines (indent 2 p.constructorBody),
    "    \x7d",
    "",
    "    receive() external payable \x7b\x7d",
    p.helpers,
    "    function react(",
    joinLines (indent 2 p.reactParameters.render),
    "    ) external override vmOnly \x7b",
    joinLines (indent 2 p.reactBody),
    "    \x7d",
    "\x7d",
    ""]

/-- The complete source unit. -/
def render (p : Plan) : String := joinLines [preamble, p.contractText]

end ReactiveContract.Plan

namespace ReactiveContract.Spec

/-- Plans a contract and writes it out. -/
def emit (spec : Spec) : Traced Artifact := do
  let plan ← Plan.ofSpec spec
  Traced.note (.generated plan.contractName spec.settings.topology.text spec.bindings.length
    spec.settings.pausable)
  return {
    sourceText := plan.render
    contractName := plan.contractName
    destinationSignatures := plan.destinationSignatures }

end ReactiveContract.Spec
