/-! The interfaces and base contracts on which every generated contract builds. -/
namespace ReactiveContract.Solidity

def reactiveInterface : String :=
  "interface IReactive \x7b
    event Callback(
        uint256 indexed chain_id,
        address indexed _contract,
        uint64 indexed gas_limit,
        bytes payload
    );

    // op_code is the number of topics in the log record (0 to 4).
    function react(
        uint256 chain_id,
        address _contract,
        uint256 topic_0,
        uint256 topic_1,
        uint256 topic_2,
        uint256 topic_3,
        bytes calldata data,
        uint256 block_number,
        uint256 op_code
    ) external;
\x7d"

def payableInterface : String :=
  "interface IPayable \x7b
    receive() external payable;

    function debt(address _contract) external view returns (uint256);
\x7d"

def payerInterface : String :=
  "interface IPayer \x7b
    function pay(uint256 amount) external;
\x7d"

def payerContract : String :=
  "abstract contract AbstractPayer is IPayer \x7b
    IPayable internal vendor;

    modifier authorizedSenderOnly() \x7b
        require(address(vendor) == address(0) || msg.sender == address(vendor), 'Authorized sender only');
        _;
    \x7d

    function pay(uint256 amount) external authorizedSenderOnly \x7b
        _pay(payable(msg.sender), amount);
    \x7d

    function coverDebt() external \x7b
        uint256 amount = vendor.debt(address(this));
        _pay(payable(address(vendor)), amount);
    \x7d

    function _pay(address payable recipient, uint256 amount) internal \x7b
        require(address(this).balance >= amount, 'Insufficient funds');
        if (amount > 0) \x7b
            (bool success,) = payable(recipient).call\x7bvalue: amount\x7d(new bytes(0));
            require(success, 'Transfer failed');
        \x7d
    \x7d
\x7d"

def subscriptionInterface : String :=
  "// A zero chain id or contract address matches everything; so does
// REACTIVE_IGNORE in a topic slot. Duplicate subscriptions are accepted.
interface ISubscriptionService \x7b
    function subscribe(
        uint256 chain_id,
        address _contract,
        uint256 topic_0,
        uint256 topic_1,
        uint256 topic_2,
        uint256 topic_3
    ) external;

    function unsubscribe(
        uint256 chain_id,
        address _contract,
        uint256 topic_0,
        uint256 topic_1,
        uint256 topic_2,
        uint256 topic_3
    ) external;
\x7d"

def systemInterface : String :=
  "interface ISystemContract is IPayable, ISubscriptionService \x7b
\x7d"

def reactiveContract : String :=
  "abstract contract AbstractReactive is IReactive, AbstractPayer \x7b
    uint256 internal constant REACTIVE_IGNORE = 0xa65f96fc951c35ead38878e0f0b7a3c744a6f5ccc1476b313353ce31712313ad;
    ISystemContract internal constant SERVICE_ADDR = ISystemContract(payable(0x0000000000000000000000000000000000fffFfF));

    // True in the ReactVM copy of the contract, where the system contract is absent.
    bool internal vm;

    ISystemContract internal service;

    constructor() \x7b
        vendor = service = SERVICE_ADDR;
    \x7d

    modifier rnOnly() \x7b
        require(!vm, 'Reactive Network only');
        _;
    \x7d

    modifier vmOnly() \x7b
        require(vm, 'VM only');
        _;
    \x7d

    modifier sysConOnly() \x7b
        require(msg.sender == address(service), 'System contract only');
        _;
    \x7d
\x7d"

def pausableContract : String :=
  "abstract contract AbstractPausableReactive is IReactive, AbstractReactive \x7b
    struct Subscription \x7b
        uint256 chain_id;
        address _contract;
        uint256 topic_0;
        uint256 topic_1;
        uint256 topic_2;
        uint256 topic_3;
    \x7d

    address internal owner;
    bool internal paused;

    constructor() \x7b
        owner = msg.sender;
    \x7d

    function getPausableSubscriptions() internal view virtual returns (Subscription[] memory);

    modifier onlyOwner() \x7b
        require(msg.sender == owner, 'Unauthorized');
        _;
    \x7d

    function pause() external rnOnly onlyOwner \x7b
        require(!paused, 'Already paused');
        Subscription[] memory subscriptions = getPausableSubscriptions();
        for (uint256 ix = 0; ix != subscriptions.length; ++ix) \x7b
            service.unsubscribe(
                subscriptions[ix].chain_id,
                subscriptions[ix]._contract,
                subscriptions[ix].topic_0,
                subscriptions[ix].topic_1,
                subscriptions[ix].topic_2,
                subscriptions[ix].topic_3
            );
        \x7d
        paused = true;
    \x7d

    function resume() external rnOnly onlyOwner \x7b
        require(paused, 'Not paused');
        Subscription[] memory subscriptions = getPausableSubscriptions();
        for (uint256 ix = 0; ix != subscriptions.length; ++ix) \x7b
            service.subscribe(
                subscriptions[ix].chain_id,
                subscriptions[ix]._contract,
                subscriptions[ix].topic_0,
                subscriptions[ix].topic_1,
                subscriptions[ix].topic_2,
                subscriptions[ix].topic_3
            );
        \x7d
        paused = false;
    \x7d
\x7d"

/-- The source that precedes a generated contract. -/
def library : String :=
  "\n\n".intercalate [reactiveInterface, payableInterface, payerInterface, payerContract,
    subscriptionInterface, systemInterface, reactiveContract, pausableContract] ++ "\n"

end ReactiveContract.Solidity
