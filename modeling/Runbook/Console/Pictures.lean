import Runbook.Console.CellWidth

/-!
# Pictures and their names

A picture is one character, a flag, or several characters that are shown as one. A flag is spelled
by two letters, and most flags have two names. Many pictures of people show a man or a woman, and
come in five tones of the skin; each of these has a name of its own.
-/

namespace Runbook.Console

set_option maxRecDepth 8000 in
/-- The pictures of one character. -/
def singlePictures : List (String × Char) :=
  [("+1", '👍'), ("-1", '👎'), ("100", '💯'), ("1234", '🔢'), ("1st_place_medal", '🥇'),
   ("2nd_place_medal", '🥈'), ("3rd_place_medal", '🥉'), ("8ball", '🎱'), ("__1", '👎'), ("a", '🅰'),
   ("a_button_(blood_type)", '🅰'), ("ab", '🆎'), ("ab_button_(blood_type)", '🆎'), ("abacus", '🧮'),
   ("abc", '🔤'), ("abcd", '🔡'), ("accept", '🉑'), ("adhesive_bandage", '🩹'),
   ("admission_tickets", '🎟'), ("aerial_tramway", '🚡'), ("airplane", '✈'),
   ("airplane_arrival", '🛬'), ("airplane_arriving", '🛬'), ("airplane_departure", '🛫'),
   ("alarm_clock", '⏰'), ("alembic", '⚗'), ("alien", '👽'), ("alien_monster", '👾'),
   ("ambulance", '🚑'), ("american_football", '🏈'), ("amphora", '🏺'), ("anchor", '⚓'),
   ("angel", '👼'), ("anger", '💢'), ("anger_symbol", '💢'), ("angry", '😠'), ("angry_face", '😠'),
   ("angry_face_with_horns", '👿'), ("anguished", '😧'), ("anguished_face", '😧'), ("ant", '🐜'),
   ("antenna_bars", '📶'), ("anxious_face_with_sweat", '😰'), ("apple", '🍎'), ("aquarius", '♒'),
   ("aries", '♈'), ("arrow_backward", '◀'), ("arrow_double_down", '⏬'), ("arrow_double_up", '⏫'),
   ("arrow_down", '⬇'), ("arrow_down_small", '🔽'), ("arrow_forward", '▶'),
   ("arrow_heading_down", '⤵'), ("arrow_heading_up", '⤴'), ("arrow_left", '⬅'),
   ("arrow_lower_left", '↙'), ("arrow_lower_right", '↘'), ("arrow_right", '➡'),
   ("arrow_right_hook", '↪'), ("arrow_up", '⬆'), ("arrow_up_down", '↕'), ("arrow_up_small", '🔼'),
   ("arrow_upper_left", '↖'), ("arrow_upper_right", '↗'), ("arrows_clockwise", '🔃'),
   ("arrows_counterclockwise", '🔄'), ("art", '🎨'), ("articulated_lorry", '🚛'),
   ("artist_palette", '🎨'), ("astonished", '😲'), ("astonished_face", '😲'), ("athletic_shoe", '👟'),
   ("atm", '🏧'), ("atm_sign", '🏧'), ("atom_symbol", '⚛'), ("auto_rickshaw", '🛺'),
   ("automobile", '🚗'), ("avocado", '🥑'), ("axe", '🪓'), ("b", '🅱'), ("b_button_(blood_type)", '🅱'),
   ("baby_bottle", '🍼'), ("baby_chick", '🐤'), ("baby_symbol", '🚼'), ("back", '🔙'),
   ("back_arrow", '🔙'), ("bacon", '🥓'), ("badger", '🦡'), ("badminton", '🏸'),
   ("badminton_racquet_and_shuttlecock", '🏸'), ("bagel", '🥯'), ("baggage_claim", '🛄'),
   ("baguette_bread", '🥖'), ("balance_scale", '⚖'), ("bald", '🦲'), ("ballet_shoes", '🩰'),
   ("balloon", '🎈'), ("ballot_box_with_ballot", '🗳'), ("ballot_box_with_check", '☑'),
   ("bamboo", '🎍'), ("banana", '🍌'), ("bangbang", '‼'), ("banjo", '🪕'), ("bank", '🏦'),
   ("bar_chart", '📊'), ("barber", '💈'), ("barber_pole", '💈'), ("baseball", '⚾'), ("basket", '🧺'),
   ("basketball", '🏀'), ("bat", '🦇'), ("bath", '🛀'), ("bathtub", '🛁'), ("battery", '🔋'),
   ("beach_with_umbrella", '🏖'), ("beaming_face_with_smiling_eyes", '😁'), ("bear", '🐻'),
   ("bear_face", '🐻'), ("beating_heart", '💓'), ("bed", '🛏'), ("bee", '🐝'), ("beer", '🍺'),
   ("beer_mug", '🍺'), ("beers", '🍻'), ("beetle", '🐞'), ("beginner", '🔰'), ("bell", '🔔'),
   ("bell_with_slash", '🔕'), ("bellhop_bell", '🛎'), ("bento", '🍱'), ("bento_box", '🍱'),
   ("beverage_box", '🧃'), ("bicycle", '🚲'), ("bicyclist", '🚴'), ("bike", '🚲'), ("bikini", '👙'),
   ("billed_cap", '🧢'), ("biohazard", '☣'), ("biohazard_sign", '☣'), ("bird", '🐦'),
   ("birthday", '🎂'), ("birthday_cake", '🎂'), ("black_circle", '⚫'),
   ("black_circle_for_record", '⏺'), ("black_flag", '🏴'), ("black_heart", '🖤'),
   ("black_joker", '🃏'), ("black_large_square", '⬛'),
   ("black_left__pointing_double_triangle_with_vertical_bar", '⏮'),
   ("black_medium-small_square", '◾'), ("black_medium_small_square", '◾'),
   ("black_medium_square", '◼'), ("black_nib", '✒'),
   ("black_right__pointing_double_triangle_with_vertical_bar", '⏭'),
   ("black_right__pointing_triangle_with_double_vertical_bar", '⏯'), ("black_small_square", '▪'),
   ("black_square_button", '🔲'), ("black_square_for_stop", '⏹'), ("blossom", '🌼'),
   ("blowfish", '🐡'), ("blue_book", '📘'), ("blue_car", '🚙'), ("blue_circle", '🔵'),
   ("blue_heart", '💙'), ("blue_square", '🟦'), ("blush", '😊'), ("boar", '🐗'), ("boat", '⛵'),
   ("bomb", '💣'), ("bone", '🦴'), ("book", '📖'), ("bookmark", '🔖'), ("bookmark_tabs", '📑'),
   ("books", '📚'), ("boom", '💥'), ("boot", '👢'), ("bottle_with_popping_cork", '🍾'),
   ("bouquet", '💐'), ("bow", '🙇'), ("bow_and_arrow", '🏹'), ("bowl_with_spoon", '🥣'),
   ("bowling", '🎳'), ("boxing_glove", '🥊'), ("brain", '🧠'), ("bread", '🍞'), ("brick", '🧱'),
   ("bridge_at_night", '🌉'), ("briefcase", '💼'), ("briefs", '🩲'), ("bright_button", '🔆'),
   ("broccoli", '🥦'), ("broken_heart", '💔'), ("broom", '🧹'), ("brown_circle", '🟤'),
   ("brown_heart", '🤎'), ("brown_square", '🟫'), ("bug", '🐛'), ("building_construction", '🏗'),
   ("bulb", '💡'), ("bullet_train", '🚅'), ("bullettrain_front", '🚅'), ("bullettrain_side", '🚄'),
   ("burrito", '🌯'), ("bus", '🚌'), ("bus_stop", '🚏'), ("busstop", '🚏'), ("bust_in_silhouette", '👤'),
   ("busts_in_silhouette", '👥'), ("butter", '🧈'), ("butterfly", '🦋'), ("cactus", '🌵'),
   ("cake", '🍰'), ("calendar", '📆'), ("calling", '📲'), ("camel", '🐫'), ("camera", '📷'),
   ("camera_with_flash", '📸'), ("camping", '🏕'), ("cancer", '♋'), ("candle", '🕯'), ("candy", '🍬'),
   ("canned_food", '🥫'), ("canoe", '🛶'), ("capital_abcd", '🔠'), ("capricorn", '♑'), ("car", '🚗'),
   ("card_file_box", '🗃'), ("card_index", '📇'), ("card_index_dividers", '🗂'),
   ("carousel_horse", '🎠'), ("carp_streamer", '🎏'), ("carrot", '🥕'), ("castle", '🏰'), ("cat", '🐱'),
   ("cat2", '🐈'), ("cat_face", '🐱'), ("cat_face_with_tears_of_joy", '😹'),
   ("cat_face_with_wry_smile", '😼'), ("cd", '💿'), ("chains", '⛓'), ("chair", '🪑'), ("chart", '💹'),
   ("chart_decreasing", '📉'), ("chart_increasing", '📈'), ("chart_increasing_with_yen", '💹'),
   ("chart_with_downwards_trend", '📉'), ("chart_with_upwards_trend", '📈'), ("checkered_flag", '🏁'),
   ("cheese_wedge", '🧀'), ("chequered_flag", '🏁'), ("cherries", '🍒'), ("cherry_blossom", '🌸'),
   ("chess_pawn", '♟'), ("chestnut", '🌰'), ("chicken", '🐔'), ("children_crossing", '🚸'),
   ("chipmunk", '🐿'), ("chocolate_bar", '🍫'), ("chopsticks", '🥢'), ("christmas_tree", '🎄'),
   ("church", '⛪'), ("cigarette", '🚬'), ("cinema", '🎦'), ("circled_m", 'Ⓜ'), ("circus_tent", '🎪'),
   ("city_sunrise", '🌇'), ("city_sunset", '🌆'), ("cityscape", '🏙'), ("cityscape_at_dusk", '🌆'),
   ("cl", '🆑'), ("cl_button", '🆑'), ("clamp", '🗜'), ("clap", '👏'), ("clapper", '🎬'),
   ("clapper_board", '🎬'), ("classical_building", '🏛'), ("clinking_beer_mugs", '🍻'),
   ("clinking_glasses", '🥂'), ("clipboard", '📋'), ("clock1", '🕐'), ("clock10", '🕙'),
   ("clock1030", '🕥'), ("clock11", '🕚'), ("clock1130", '🕦'), ("clock12", '🕛'), ("clock1230", '🕧'),
   ("clock130", '🕜'), ("clock2", '🕑'), ("clock230", '🕝'), ("clock3", '🕒'), ("clock330", '🕞'),
   ("clock4", '🕓'), ("clock430", '🕟'), ("clock5", '🕔'), ("clock530", '🕠'), ("clock6", '🕕'),
   ("clock630", '🕡'), ("clock7", '🕖'), ("clock730", '🕢'), ("clock8", '🕗'), ("clock830", '🕣'),
   ("clock9", '🕘'), ("clock930", '🕤'), ("clockwise_vertical_arrows", '🔃'), ("closed_book", '📕'),
   ("closed_lock_with_key", '🔐'), ("closed_mailbox_with_lowered_flag", '📪'),
   ("closed_mailbox_with_raised_flag", '📫'), ("closed_umbrella", '🌂'), ("cloud", '☁'),
   ("cloud_with_lightning", '🌩'), ("cloud_with_lightning_and_rain", '⛈'), ("cloud_with_rain", '🌧'),
   ("cloud_with_snow", '🌨'), ("cloud_with_tornado", '🌪'), ("clown_face", '🤡'), ("club_suit", '♣'),
   ("clubs", '♣'), ("clutch_bag", '👝'), ("coat", '🧥'), ("cocktail", '🍸'), ("cocktail_glass", '🍸'),
   ("coconut", '🥥'), ("coffee", '☕'), ("coffin", '⚰'), ("cold_face", '🥶'), ("cold_sweat", '😰'),
   ("collision", '💥'), ("comet", '☄'), ("compass", '🧭'), ("compression", '🗜'), ("computer", '💻'),
   ("computer_disk", '💽'), ("computer_mouse", '🖱'), ("confetti_ball", '🎊'), ("confounded", '😖'),
   ("confounded_face", '😖'), ("confused", '😕'), ("confused_face", '😕'), ("congratulations", '㊗'),
   ("construction", '🚧'), ("control_knobs", '🎛'), ("convenience_store", '🏪'), ("cooked_rice", '🍚'),
   ("cookie", '🍪'), ("cooking", '🍳'), ("cool", '🆒'), ("cool_button", '🆒'), ("cop", '👮'),
   ("copyright", '©'), ("corn", '🌽'), ("couch_and_lamp", '🛋'),
   ("counterclockwise_arrows_button", '🔄'), ("couple", '👫'), ("couple_with_heart", '💑'),
   ("couplekiss", '💏'), ("cow", '🐮'), ("cow2", '🐄'), ("cow_face", '🐮'), ("cowboy_hat_face", '🤠'),
   ("crab", '🦀'), ("crayon", '🖍'), ("credit_card", '💳'), ("crescent_moon", '🌙'), ("cricket", '🦗'),
   ("cricket_bat_and_ball", '🏏'), ("cricket_game", '🏏'), ("crocodile", '🐊'), ("croissant", '🥐'),
   ("cross_mark", '❌'), ("cross_mark_button", '❎'), ("crossed_flags", '🎌'), ("crossed_swords", '⚔'),
   ("crown", '👑'), ("cry", '😢'), ("crying_cat_face", '😿'), ("crying_face", '😢'),
   ("crystal_ball", '🔮'), ("cucumber", '🥒'), ("cup_with_straw", '🥤'), ("cupcake", '🧁'),
   ("cupid", '💘'), ("curling_stone", '🥌'), ("curly_hair", '🦱'), ("curly_loop", '➰'),
   ("currency_exchange", '💱'), ("curry", '🍛'), ("curry_rice", '🍛'), ("custard", '🍮'),
   ("customs", '🛃'), ("cut_of_meat", '🥩'), ("cyclone", '🌀'), ("dagger", '🗡'), ("dagger_knife", '🗡'),
   ("dancer", '💃'), ("dancers", '👯'), ("dango", '🍡'), ("dark_skin_tone", '🏿'),
   ("dark_sunglasses", '🕶'), ("dart", '🎯'), ("dash", '💨'), ("dashing_away", '💨'), ("date", '📅'),
   ("deaf_person", '🧏'), ("deciduous_tree", '🌳'), ("deer", '🦌'), ("delivery_truck", '🚚'),
   ("department_store", '🏬'), ("derelict_house", '🏚'), ("derelict_house_building", '🏚'),
   ("desert", '🏜'), ("desert_island", '🏝'), ("desktop_computer", '🖥'),
   ("diamond_shape_with_a_dot_inside", '💠'), ("diamond_suit", '♦'), ("diamond_with_a_dot", '💠'),
   ("diamonds", '♦'), ("dim_button", '🔅'), ("direct_hit", '🎯'), ("disappointed", '😞'),
   ("disappointed_face", '😞'), ("disappointed_relieved", '😥'), ("diving_mask", '🤿'),
   ("diya_lamp", '🪔'), ("dizzy", '💫'), ("dizzy_face", '😵'), ("dna", '🧬'), ("do_not_litter", '🚯'),
   ("dog", '🐶'), ("dog2", '🐕'), ("dog_face", '🐶'), ("dollar", '💵'), ("dollar_banknote", '💵'),
   ("dolls", '🎎'), ("dolphin", '🐬'), ("door", '🚪'), ("dotted_six-pointed_star", '🔯'),
   ("double_curly_loop", '➿'), ("double_exclamation_mark", '‼'), ("double_vertical_bar", '⏸'),
   ("doughnut", '🍩'), ("dove", '🕊'), ("dove_of_peace", '🕊'), ("down-left_arrow", '↙'),
   ("down-right_arrow", '↘'), ("down_arrow", '⬇'), ("downcast_face_with_sweat", '😓'),
   ("downwards_button", '🔽'), ("dragon", '🐉'), ("dragon_face", '🐲'), ("dress", '👗'),
   ("dromedary_camel", '🐪'), ("drooling_face", '🤤'), ("drop_of_blood", '🩸'), ("droplet", '💧'),
   ("drum", '🥁'), ("duck", '🦆'), ("dumpling", '🥟'), ("dvd", '📀'), ("e-mail", '📧'), ("e__mail", '📧'),
   ("eagle", '🦅'), ("ear_of_corn", '🌽'), ("ear_of_rice", '🌾'), ("ear_with_hearing_aid", '🦻'),
   ("earth_africa", '🌍'), ("earth_americas", '🌎'), ("earth_asia", '🌏'), ("egg", '🍳'),
   ("eggplant", '🍆'), ("eight-pointed_star", '✴'), ("eight-spoked_asterisk", '✳'),
   ("eight-thirty", '🕣'), ("eight_o’clock", '🕗'), ("eight_pointed_black_star", '✴'),
   ("eight_spoked_asterisk", '✳'), ("eject_button", '⏏'), ("eject_symbol", '⏏'),
   ("electric_plug", '🔌'), ("elephant", '🐘'), ("eleven-thirty", '🕦'), ("eleven_o’clock", '🕚'),
   ("email", '✉'), ("emoji_modifier_fitzpatrick_type__1__2", '🏻'),
   ("emoji_modifier_fitzpatrick_type__3", '🏼'), ("emoji_modifier_fitzpatrick_type__4", '🏽'),
   ("emoji_modifier_fitzpatrick_type__5", '🏾'), ("emoji_modifier_fitzpatrick_type__6", '🏿'),
   ("end", '🔚'), ("end_arrow", '🔚'), ("envelope", '✉'), ("envelope_with_arrow", '📩'), ("euro", '💶'),
   ("euro_banknote", '💶'), ("european_castle", '🏰'), ("european_post_office", '🏤'),
   ("evergreen_tree", '🌲'), ("ewe", '🐑'), ("exclamation", '❗'), ("exclamation_mark", '❗'),
   ("exclamation_question_mark", '⁉'), ("exploding_head", '🤯'), ("expressionless", '😑'),
   ("expressionless_face", '😑'), ("eye", '👁'), ("eyeglasses", '👓'), ("eyes", '👀'),
   ("face_blowing_a_kiss", '😘'), ("face_savoring_food", '😋'), ("face_screaming_in_fear", '😱'),
   ("face_vomiting", '🤮'), ("face_with_hand_over_mouth", '🤭'), ("face_with_head-bandage", '🤕'),
   ("face_with_head__bandage", '🤕'), ("face_with_medical_mask", '😷'), ("face_with_monocle", '🧐'),
   ("face_with_open_mouth", '😮'), ("face_with_raised_eyebrow", '🤨'),
   ("face_with_rolling_eyes", '🙄'), ("face_with_steam_from_nose", '😤'),
   ("face_with_symbols_on_mouth", '🤬'), ("face_with_tears_of_joy", '😂'),
   ("face_with_thermometer", '🤒'), ("face_with_tongue", '😛'), ("face_without_mouth", '😶'),
   ("facepunch", '👊'), ("factory", '🏭'), ("falafel", '🧆'), ("fallen_leaf", '🍂'), ("family", '👪'),
   ("fast-forward_button", '⏩'), ("fast_down_button", '⏬'), ("fast_forward", '⏩'),
   ("fast_reverse_button", '⏪'), ("fast_up_button", '⏫'), ("fax", '📠'), ("fax_machine", '📠'),
   ("fearful", '😨'), ("fearful_face", '😨'), ("feet", '🐾'), ("female_sign", '♀'),
   ("ferris_wheel", '🎡'), ("ferry", '⛴'), ("field_hockey", '🏑'),
   ("field_hockey_stick_and_ball", '🏑'), ("file_cabinet", '🗄'), ("file_folder", '📁'),
   ("film_frames", '🎞'), ("film_projector", '📽'), ("fire", '🔥'), ("fire_engine", '🚒'),
   ("fire_extinguisher", '🧯'), ("firecracker", '🧨'), ("fireworks", '🎆'),
   ("first_quarter_moon", '🌓'), ("first_quarter_moon_face", '🌛'),
   ("first_quarter_moon_with_face", '🌛'), ("fish", '🐟'), ("fish_cake", '🍥'),
   ("fish_cake_with_swirl", '🍥'), ("fishing_pole", '🎣'), ("fishing_pole_and_fish", '🎣'),
   ("fist", '✊'), ("five-thirty", '🕠'), ("five_o’clock", '🕔'), ("flag_in_hole", '⛳'),
   ("flags", '🎏'), ("flamingo", '🦩'), ("flashlight", '🔦'), ("flat_shoe", '🥿'),
   ("fleur-de-lis", '⚜'), ("fleur__de__lis", '⚜'), ("flipper", '🐬'), ("floppy_disk", '💾'),
   ("flower_playing_cards", '🎴'), ("flushed", '😳'), ("flushed_face", '😳'), ("flying_disc", '🥏'),
   ("flying_saucer", '🛸'), ("fog", '🌫'), ("foggy", '🌁'), ("foot", '🦶'), ("football", '🏈'),
   ("footprints", '👣'), ("fork_and_knife", '🍴'), ("fork_and_knife_with_plate", '🍽'),
   ("fortune_cookie", '🥠'), ("fountain", '⛲'), ("fountain_pen", '🖋'), ("four-thirty", '🕟'),
   ("four_leaf_clover", '🍀'), ("four_o’clock", '🕓'), ("fox_face", '🦊'), ("frame_with_picture", '🖼'),
   ("framed_picture", '🖼'), ("free", '🆓'), ("free_button", '🆓'), ("french_fries", '🍟'),
   ("fried_shrimp", '🍤'), ("fries", '🍟'), ("frog", '🐸'), ("frog_face", '🐸'),
   ("front-facing_baby_chick", '🐥'), ("frowning", '😦'), ("frowning_face", '☹'),
   ("frowning_face_with_open_mouth", '😦'), ("fuel_pump", '⛽'), ("fuelpump", '⛽'),
   ("full_moon", '🌕'), ("full_moon_face", '🌝'), ("full_moon_with_face", '🌝'), ("funeral_urn", '⚱'),
   ("game_die", '🎲'), ("garlic", '🧄'), ("gear", '⚙'), ("gem", '💎'), ("gem_stone", '💎'),
   ("gemini", '♊'), ("genie", '🧞'), ("ghost", '👻'), ("gift", '🎁'), ("gift_heart", '💝'),
   ("giraffe", '🦒'), ("glass_of_milk", '🥛'), ("glasses", '👓'), ("globe_showing_americas", '🌎'),
   ("globe_showing_asia-australia", '🌏'), ("globe_showing_europe-africa", '🌍'),
   ("globe_with_meridians", '🌐'), ("gloves", '🧤'), ("glowing_star", '🌟'), ("goal_net", '🥅'),
   ("goat", '🐐'), ("goblin", '👺'), ("goggles", '🥽'), ("golf", '⛳'), ("golfer", '🏌'),
   ("gorilla", '🦍'), ("graduation_cap", '🎓'), ("grapes", '🍇'), ("green_apple", '🍏'),
   ("green_book", '📗'), ("green_circle", '🟢'), ("green_heart", '💚'), ("green_salad", '🥗'),
   ("green_square", '🟩'), ("grey_exclamation", '❕'), ("grey_question", '❔'), ("grimacing", '😬'),
   ("grimacing_face", '😬'), ("grin", '😁'), ("grinning", '😀'), ("grinning_cat_face", '😺'),
   ("grinning_cat_face_with_smiling_eyes", '😸'), ("grinning_face", '😀'),
   ("grinning_face_with_big_eyes", '😃'), ("grinning_face_with_smiling_eyes", '😄'),
   ("grinning_face_with_sweat", '😅'), ("grinning_squinting_face", '😆'), ("growing_heart", '💗'),
   ("guardsman", '💂'), ("guide_dog", '🦮'), ("guitar", '🎸'), ("gun", '🔫'), ("haircut", '💇'),
   ("hamburger", '🍔'), ("hammer", '🔨'), ("hammer_and_pick", '⚒'), ("hammer_and_wrench", '🛠'),
   ("hamster", '🐹'), ("hamster_face", '🐹'), ("hand", '✋'), ("handbag", '👜'), ("handshake", '🤝'),
   ("hankey", '💩'), ("hatched_chick", '🐥'), ("hatching_chick", '🐣'), ("headphone", '🎧'),
   ("headphones", '🎧'), ("hear-no-evil_monkey", '🙉'), ("hear_no_evil", '🙉'), ("heart", '❤'),
   ("heart_decoration", '💟'), ("heart_eyes", '😍'), ("heart_eyes_cat", '😻'), ("heart_suit", '♥'),
   ("heart_with_arrow", '💘'), ("heart_with_ribbon", '💝'), ("heartbeat", '💓'), ("heartpulse", '💗'),
   ("hearts", '♥'), ("heavy_check_mark", '✔'), ("heavy_division_sign", '➗'),
   ("heavy_dollar_sign", '💲'), ("heavy_exclamation_mark", '❗'), ("heavy_heart_exclamation", '❣'),
   ("heavy_heart_exclamation_mark_ornament", '❣'), ("heavy_large_circle", '⭕'),
   ("heavy_minus_sign", '➖'), ("heavy_multiplication_x", '✖'), ("heavy_plus_sign", '➕'),
   ("hedgehog", '🦔'), ("helicopter", '🚁'), ("helm_symbol", '⎈'), ("helmet_with_white_cross", '⛑'),
   ("herb", '🌿'), ("hibiscus", '🌺'), ("high-heeled_shoe", '👠'), ("high-speed_train", '🚄'),
   ("high_brightness", '🔆'), ("high_heel", '👠'), ("high_voltage", '⚡'), ("hiking_boot", '🥾'),
   ("hindu_temple", '🛕'), ("hippopotamus", '🦛'), ("hocho", '🔪'), ("hole", '🕳'), ("honey_pot", '🍯'),
   ("honeybee", '🐝'), ("horizontal_traffic_light", '🚥'), ("horse", '🐴'), ("horse_face", '🐴'),
   ("hospital", '🏥'), ("hot_beverage", '☕'), ("hot_dog", '🌭'), ("hot_face", '🥵'),
   ("hot_pepper", '🌶'), ("hot_springs", '♨'), ("hotel", '🏨'), ("hotsprings", '♨'),
   ("hourglass", '⌛'), ("hourglass_done", '⌛'), ("hourglass_flowing_sand", '⏳'),
   ("hourglass_not_done", '⏳'), ("house", '🏠'), ("house_buildings", '🏘'),
   ("house_with_garden", '🏡'), ("houses", '🏘'), ("hugging_face", '🤗'), ("hundred_points", '💯'),
   ("hushed", '😯'), ("hushed_face", '😯'), ("ice", '🧊'), ("ice_cream", '🍨'), ("ice_hockey", '🏒'),
   ("ice_hockey_stick_and_puck", '🏒'), ("ice_skate", '⛸'), ("icecream", '🍦'), ("id", '🆔'),
   ("id_button", '🆔'), ("ideograph_advantage", '🉐'), ("imp", '👿'), ("inbox_tray", '📥'),
   ("incoming_envelope", '📨'), ("infinity", '♾'), ("information", 'ℹ'),
   ("information_desk_person", '💁'), ("information_source", 'ℹ'), ("innocent", '😇'),
   ("input_latin_letters", '🔤'), ("input_latin_lowercase", '🔡'), ("input_latin_uppercase", '🔠'),
   ("input_numbers", '🔢'), ("input_symbols", '🔣'), ("interrobang", '⁉'), ("iphone", '📱'),
   ("izakaya_lantern", '🏮'), ("jack-o-lantern", '🎃'), ("jack_o_lantern", '🎃'), ("japan", '🗾'),
   ("japanese_acceptable_button", '🉑'), ("japanese_application_button", '🈸'),
   ("japanese_bargain_button", '🉐'), ("japanese_castle", '🏯'),
   ("japanese_congratulations_button", '㊗'), ("japanese_discount_button", '🈹'),
   ("japanese_dolls", '🎎'), ("japanese_free_of_charge_button", '🈚'), ("japanese_goblin", '👺'),
   ("japanese_here_button", '🈁'), ("japanese_monthly_amount_button", '🈷'),
   ("japanese_no_vacancy_button", '🈵'), ("japanese_not_free_of_charge_button", '🈶'),
   ("japanese_ogre", '👹'), ("japanese_open_for_business_button", '🈺'),
   ("japanese_passing_grade_button", '🈴'), ("japanese_post_office", '🏣'),
   ("japanese_prohibited_button", '🈲'), ("japanese_reserved_button", '🈯'),
   ("japanese_secret_button", '㊙'), ("japanese_service_charge_button", '🈂'),
   ("japanese_symbol_for_beginner", '🔰'), ("japanese_vacancy_button", '🈳'), ("jeans", '👖'),
   ("jigsaw", '🧩'), ("joker", '🃏'), ("joy", '😂'), ("joy_cat", '😹'), ("joystick", '🕹'),
   ("kaaba", '🕋'), ("kangaroo", '🦘'), ("key", '🔑'), ("keyboard", '⌨'), ("keycap_10", '🔟'),
   ("kick_scooter", '🛴'), ("kimono", '👘'), ("kiss", '💋'), ("kiss_mark", '💋'), ("kissing", '😗'),
   ("kissing_cat", '😽'), ("kissing_cat_face", '😽'), ("kissing_closed_eyes", '😚'),
   ("kissing_face", '😗'), ("kissing_face_with_closed_eyes", '😚'),
   ("kissing_face_with_smiling_eyes", '😙'), ("kissing_heart", '😘'), ("kissing_smiling_eyes", '😙'),
   ("kitchen_knife", '🔪'), ("kite", '🪁'), ("kiwi_fruit", '🥝'), ("knife", '🔪'), ("koala", '🐨'),
   ("koko", '🈁'), ("lab_coat", '🥼'), ("label", '🏷'), ("lacrosse", '🥍'), ("lady_beetle", '🐞'),
   ("lantern", '🏮'), ("laptop_computer", '💻'), ("large_blue_circle", '🔵'),
   ("large_blue_diamond", '🔷'), ("large_orange_diamond", '🔶'), ("last_quarter_moon", '🌗'),
   ("last_quarter_moon_face", '🌜'), ("last_quarter_moon_with_face", '🌜'),
   ("last_track_button", '⏮'), ("latin_cross", '✝'), ("laughing", '😆'),
   ("leaf_fluttering_in_wind", '🍃'), ("leafy_green", '🥬'), ("leaves", '🍃'), ("ledger", '📒'),
   ("left-right_arrow", '↔'), ("left_arrow", '⬅'), ("left_arrow_curving_right", '↪'),
   ("left_luggage", '🛅'), ("left_right_arrow", '↔'), ("left_speech_bubble", '🗨'),
   ("leftwards_arrow_with_hook", '↩'), ("leg", '🦵'), ("lemon", '🍋'), ("leo", '♌'), ("leopard", '🐆'),
   ("level_slider", '🎚'), ("libra", '♎'), ("light_bulb", '💡'), ("light_rail", '🚈'),
   ("light_skin_tone", '🏻'), ("link", '🔗'), ("linked_paperclips", '🖇'), ("lion_face", '🦁'),
   ("lips", '👄'), ("lipstick", '💄'), ("litter_in_bin_sign", '🚮'), ("lizard", '🦎'), ("llama", '🦙'),
   ("lobster", '🦞'), ("lock", '🔒'), ("lock_with_ink_pen", '🔏'), ("locked", '🔒'),
   ("locked_with_key", '🔐'), ("locked_with_pen", '🔏'), ("locomotive", '🚂'), ("lollipop", '🍭'),
   ("loop", '➿'), ("lotion_bottle", '🧴'), ("loud_sound", '🔊'), ("loudly_crying_face", '😭'),
   ("loudspeaker", '📢'), ("love_hotel", '🏩'), ("love_letter", '💌'), ("low_brightness", '🔅'),
   ("lower_left_ballpoint_pen", '🖊'), ("lower_left_crayon", '🖍'), ("lower_left_fountain_pen", '🖋'),
   ("lower_left_paintbrush", '🖌'), ("luggage", '🧳'), ("lying_face", '🤥'), ("m", 'Ⓜ'), ("mag", '🔍'),
   ("mag_right", '🔎'), ("magnet", '🧲'), ("magnifying_glass_tilted_left", '🔍'),
   ("magnifying_glass_tilted_right", '🔎'), ("mahjong", '🀄'), ("mahjong_red_dragon", '🀄'),
   ("mailbox", '📫'), ("mailbox_closed", '📪'), ("mailbox_with_mail", '📬'),
   ("mailbox_with_no_mail", '📭'), ("male_sign", '♂'), ("man_and_woman_holding_hands", '👫'),
   ("man_in_business_suit_levitating", '🕴'), ("man_with_gua_pi_mao", '👲'), ("man_with_turban", '👳'),
   ("mango", '🥭'), ("mans_shoe", '👞'), ("mantelpiece_clock", '🕰'), ("manual_wheelchair", '🦽'),
   ("man’s_shoe", '👞'), ("map_of_japan", '🗾'), ("maple_leaf", '🍁'), ("martial_arts_uniform", '🥋'),
   ("mask", '😷'), ("massage", '💆'), ("mate", '🧉'), ("meat_on_bone", '🍖'), ("mechanical_arm", '🦾'),
   ("mechanical_leg", '🦿'), ("medical_symbol", '⚕'), ("medium_dark_skin_tone", '🏾'),
   ("medium_light_skin_tone", '🏼'), ("medium_skin_tone", '🏽'), ("mega", '📣'), ("megaphone", '📣'),
   ("melon", '🍈'), ("memo", '📝'), ("menorah", '🕎'), ("menorah_with_nine_branches", '🕎'),
   ("mens", '🚹'), ("men’s_room", '🚹'), ("metro", '🚇'), ("microbe", '🦠'), ("microphone", '🎤'),
   ("microscope", '🔬'), ("military_medal", '🎖'), ("milky_way", '🌌'), ("minibus", '🚐'),
   ("minidisc", '💽'), ("moai", '🗿'), ("mobile_phone", '📱'), ("mobile_phone_off", '📴'),
   ("mobile_phone_with_arrow", '📲'), ("money-mouth_face", '🤑'), ("money__mouth_face", '🤑'),
   ("money_bag", '💰'), ("money_with_wings", '💸'), ("moneybag", '💰'), ("monkey", '🐒'),
   ("monkey_face", '🐵'), ("monorail", '🚝'), ("moon", '🌔'), ("moon_cake", '🥮'),
   ("moon_viewing_ceremony", '🎑'), ("mortar_board", '🎓'), ("mosque", '🕌'), ("mosquito", '🦟'),
   ("motor_boat", '🛥'), ("motor_scooter", '🛵'), ("motorcycle", '🏍'), ("motorized_wheelchair", '🦼'),
   ("motorway", '🛣'), ("mount_fuji", '🗻'), ("mountain", '⛰'), ("mountain_bicyclist", '🚵'),
   ("mountain_cableway", '🚠'), ("mountain_railway", '🚞'), ("mouse", '🐭'), ("mouse2", '🐁'),
   ("mouse_face", '🐭'), ("mouth", '👄'), ("movie_camera", '🎥'), ("moyai", '🗿'), ("muscle", '💪'),
   ("mushroom", '🍄'), ("musical_keyboard", '🎹'), ("musical_note", '🎵'), ("musical_notes", '🎶'),
   ("musical_score", '🎼'), ("mute", '🔇'), ("muted_speaker", '🔇'), ("nail_care", '💅'),
   ("name_badge", '📛'), ("national_park", '🏞'), ("nauseated_face", '🤢'), ("nazar_amulet", '🧿'),
   ("necktie", '👔'), ("negative_squared_cross_mark", '❎'), ("nerd_face", '🤓'),
   ("neutral_face", '😐'), ("new", '🆕'), ("new_button", '🆕'), ("new_moon", '🌑'),
   ("new_moon_face", '🌚'), ("new_moon_with_face", '🌚'), ("newspaper", '📰'),
   ("next_track_button", '⏭'), ("ng", '🆖'), ("ng_button", '🆖'), ("night_with_stars", '🌃'),
   ("nine-thirty", '🕤'), ("nine_o’clock", '🕘'), ("no_bell", '🔕'), ("no_bicycles", '🚳'),
   ("no_entry", '⛔'), ("no_entry_sign", '🚫'), ("no_good", '🙅'), ("no_littering", '🚯'),
   ("no_mobile_phones", '📵'), ("no_mouth", '😶'), ("no_one_under_eighteen", '🔞'),
   ("no_pedestrians", '🚷'), ("no_smoking", '🚭'), ("non-potable_water", '🚱'),
   ("non__potable_water", '🚱'), ("notebook", '📓'), ("notebook_with_decorative_cover", '📔'),
   ("notes", '🎶'), ("nut_and_bolt", '🔩'), ("o", '⭕'), ("o2", '🅾'), ("o_button_(blood_type)", '🅾'),
   ("ocean", '🌊'), ("octopus", '🐙'), ("oden", '🍢'), ("office", '🏢'), ("office_building", '🏢'),
   ("ogre", '👹'), ("oil_drum", '🛢'), ("ok", '🆗'), ("ok_button", '🆗'), ("ok_woman", '🙆'),
   ("old_key", '🗝'), ("older_man", '👴'), ("older_woman", '👵'), ("om", '🕉'), ("om_symbol", '🕉'),
   ("on", '🔛'), ("on!_arrow", '🔛'), ("oncoming_automobile", '🚘'), ("oncoming_bus", '🚍'),
   ("oncoming_police_car", '🚔'), ("oncoming_taxi", '🚖'), ("one-piece_swimsuit", '🩱'),
   ("one-thirty", '🕜'), ("one_o’clock", '🕐'), ("onion", '🧅'), ("open_book", '📖'),
   ("open_file_folder", '📂'), ("open_mailbox_with_lowered_flag", '📭'),
   ("open_mailbox_with_raised_flag", '📬'), ("open_mouth", '😮'), ("ophiuchus", '⛎'),
   ("optical_disk", '💿'), ("orange_book", '📙'), ("orange_circle", '🟠'), ("orange_heart", '🧡'),
   ("orange_square", '🟧'), ("orangutan", '🦧'), ("orthodox_cross", '☦'), ("otter", '🦦'),
   ("outbox_tray", '📤'), ("owl", '🦉'), ("ox", '🐂'), ("oyster", '🦪'), ("p_button", '🅿'),
   ("package", '📦'), ("page_facing_up", '📄'), ("page_with_curl", '📃'), ("pager", '📟'),
   ("paintbrush", '🖌'), ("palm_tree", '🌴'), ("pancakes", '🥞'), ("panda_face", '🐼'),
   ("paperclip", '📎'), ("parking", '🅿'), ("parrot", '🦜'), ("part_alternation_mark", '〽'),
   ("partly_sunny", '⛅'), ("party_popper", '🎉'), ("partying_face", '🥳'), ("passenger_ship", '🛳'),
   ("passport_control", '🛂'), ("pause_button", '⏸'), ("paw_prints", '🐾'), ("peace_symbol", '☮'),
   ("peach", '🍑'), ("peacock", '🦚'), ("peanuts", '🥜'), ("pear", '🍐'), ("pen", '🖊'), ("pencil", '📝'),
   ("pencil2", '✏'), ("penguin", '🐧'), ("pensive", '😔'), ("pensive_face", '😔'),
   ("people_with_bunny_ears", '👯'), ("people_wrestling", '🤼'), ("performing_arts", '🎭'),
   ("persevere", '😣'), ("persevering_face", '😣'), ("person_fencing", '🤺'), ("person_kneeling", '🧎'),
   ("person_standing", '🧍'), ("person_with_ball", '⛹'), ("person_with_blond_hair", '👱'),
   ("person_with_pouting_face", '🙎'), ("petri_dish", '🧫'), ("phone", '☎'), ("pick", '⛏'),
   ("pie", '🥧'), ("pig", '🐷'), ("pig2", '🐖'), ("pig_face", '🐷'), ("pig_nose", '🐽'),
   ("pile_of_poo", '💩'), ("pill", '💊'), ("pinching_hand", '🤏'), ("pine_decoration", '🎍'),
   ("pineapple", '🍍'), ("ping_pong", '🏓'), ("pisces", '♓'), ("pistol", '🔫'), ("pizza", '🍕'),
   ("place_of_worship", '🛐'), ("play_button", '▶'), ("play_or_pause_button", '⏯'),
   ("pleading_face", '🥺'), ("point_down", '👇'), ("point_left", '👈'), ("point_right", '👉'),
   ("point_up", '☝'), ("point_up_2", '👆'), ("police_car", '🚓'), ("police_car_light", '🚨'),
   ("poodle", '🐩'), ("pool_8_ball", '🎱'), ("poop", '💩'), ("popcorn", '🍿'), ("post_office", '🏣'),
   ("postal_horn", '📯'), ("postbox", '📮'), ("pot_of_food", '🍲'), ("potable_water", '🚰'),
   ("potato", '🥔'), ("pouch", '👝'), ("poultry_leg", '🍗'), ("pound", '💷'), ("pound_banknote", '💷'),
   ("pouting_cat", '😾'), ("pouting_cat_face", '😾'), ("pouting_face", '😡'), ("pray", '🙏'),
   ("prayer_beads", '📿'), ("pretzel", '🥨'), ("printer", '🖨'), ("probing_cane", '🦯'),
   ("prohibited", '🚫'), ("punch", '👊'), ("purple_circle", '🟣'), ("purple_heart", '💜'),
   ("purple_square", '🟪'), ("purse", '👛'), ("pushpin", '📌'), ("put_litter_in_its_place", '🚮'),
   ("question", '❓'), ("question_mark", '❓'), ("rabbit", '🐰'), ("rabbit2", '🐇'),
   ("rabbit_face", '🐰'), ("raccoon", '🦝'), ("racehorse", '🐎'), ("racing_car", '🏎'),
   ("racing_motorcycle", '🏍'), ("radio", '📻'), ("radio_button", '🔘'), ("radioactive", '☢'),
   ("radioactive_sign", '☢'), ("rage", '😡'), ("railway_car", '🚃'), ("railway_track", '🛤'),
   ("rainbow", '🌈'), ("raised_hand_with_fingers_splayed", '🖐'),
   ("raised_hand_with_part_between_middle_and_ring_fingers", '🖖'), ("raised_hands", '🙌'),
   ("raising_hand", '🙋'), ("ram", '🐏'), ("ramen", '🍜'), ("rat", '🐀'), ("razor", '🪒'),
   ("receipt", '🧾'), ("record_button", '⏺'), ("recycle", '♻'), ("recycling_symbol", '♻'),
   ("red_apple", '🍎'), ("red_car", '🚗'), ("red_circle", '🔴'), ("red_envelope", '🧧'),
   ("red_hair", '🦰'), ("red_heart", '❤'), ("red_paper_lantern", '🏮'), ("red_square", '🟥'),
   ("red_triangle_pointed_down", '🔻'), ("red_triangle_pointed_up", '🔺'),
   ("regional_indicator_a", '🇦'), ("regional_indicator_b", '🇧'), ("regional_indicator_c", '🇨'),
   ("regional_indicator_d", '🇩'), ("regional_indicator_e", '🇪'), ("regional_indicator_f", '🇫'),
   ("regional_indicator_g", '🇬'), ("regional_indicator_h", '🇭'), ("regional_indicator_i", '🇮'),
   ("regional_indicator_j", '🇯'), ("regional_indicator_k", '🇰'), ("regional_indicator_l", '🇱'),
   ("regional_indicator_m", '🇲'), ("regional_indicator_n", '🇳'), ("regional_indicator_o", '🇴'),
   ("regional_indicator_p", '🇵'), ("regional_indicator_q", '🇶'), ("regional_indicator_r", '🇷'),
   ("regional_indicator_s", '🇸'), ("regional_indicator_symbol_letter_a", '🇦'),
   ("regional_indicator_symbol_letter_b", '🇧'), ("regional_indicator_symbol_letter_c", '🇨'),
   ("regional_indicator_symbol_letter_d", '🇩'), ("regional_indicator_symbol_letter_e", '🇪'),
   ("regional_indicator_symbol_letter_f", '🇫'), ("regional_indicator_symbol_letter_g", '🇬'),
   ("regional_indicator_symbol_letter_h", '🇭'), ("regional_indicator_symbol_letter_i", '🇮'),
   ("regional_indicator_symbol_letter_j", '🇯'), ("regional_indicator_symbol_letter_k", '🇰'),
   ("regional_indicator_symbol_letter_l", '🇱'), ("regional_indicator_symbol_letter_m", '🇲'),
   ("regional_indicator_symbol_letter_n", '🇳'), ("regional_indicator_symbol_letter_o", '🇴'),
   ("regional_indicator_symbol_letter_p", '🇵'), ("regional_indicator_symbol_letter_q", '🇶'),
   ("regional_indicator_symbol_letter_r", '🇷'), ("regional_indicator_symbol_letter_s", '🇸'),
   ("regional_indicator_symbol_letter_t", '🇹'), ("regional_indicator_symbol_letter_u", '🇺'),
   ("regional_indicator_symbol_letter_v", '🇻'), ("regional_indicator_symbol_letter_w", '🇼'),
   ("regional_indicator_symbol_letter_x", '🇽'), ("regional_indicator_symbol_letter_y", '🇾'),
   ("regional_indicator_symbol_letter_z", '🇿'), ("regional_indicator_t", '🇹'),
   ("regional_indicator_u", '🇺'), ("regional_indicator_v", '🇻'), ("regional_indicator_w", '🇼'),
   ("regional_indicator_x", '🇽'), ("regional_indicator_y", '🇾'), ("regional_indicator_z", '🇿'),
   ("registered", '®'), ("relaxed", '☺'), ("relieved", '😌'), ("relieved_face", '😌'),
   ("reminder_ribbon", '🎗'), ("repeat", '🔁'), ("repeat_button", '🔁'), ("repeat_one", '🔂'),
   ("repeat_single_button", '🔂'), ("rescue_worker’s_helmet", '⛑'), ("restroom", '🚻'),
   ("reverse_button", '◀'), ("reversed_hand_with_middle_finger_extended", '🖕'),
   ("revolving_hearts", '💞'), ("rewind", '⏪'), ("rhinoceros", '🦏'), ("ribbon", '🎀'), ("rice", '🍚'),
   ("rice_ball", '🍙'), ("rice_cracker", '🍘'), ("rice_scene", '🎑'), ("right_anger_bubble", '🗯'),
   ("right_arrow", '➡'), ("right_arrow_curving_down", '⤵'), ("right_arrow_curving_left", '↩'),
   ("right_arrow_curving_up", '⤴'), ("ring", '💍'), ("ringed_planet", '🪐'),
   ("roasted_sweet_potato", '🍠'), ("robot", '🤖'), ("robot_face", '🤖'), ("rocket", '🚀'),
   ("roll_of_paper", '🧻'), ("rolled-up_newspaper", '🗞'), ("rolled__up_newspaper", '🗞'),
   ("roller_coaster", '🎢'), ("rolling_on_the_floor_laughing", '🤣'), ("rooster", '🐓'), ("rose", '🌹'),
   ("rosette", '🏵'), ("rotating_light", '🚨'), ("round_pushpin", '📍'), ("rowboat", '🚣'),
   ("rugby_football", '🏉'), ("runner", '🏃'), ("running", '🏃'), ("running_shirt", '🎽'),
   ("running_shirt_with_sash", '🎽'), ("running_shoe", '👟'), ("sa", '🈂'),
   ("sad_but_relieved_face", '😥'), ("safety_pin", '🧷'), ("safety_vest", '🦺'), ("sagittarius", '♐'),
   ("sailboat", '⛵'), ("sake", '🍶'), ("salt", '🧂'), ("sandal", '👡'), ("sandwich", '🥪'),
   ("santa", '🎅'), ("sari", '🥻'), ("satellite", '📡'), ("satellite_antenna", '📡'),
   ("satisfied", '😆'), ("sauropod", '🦕'), ("saxophone", '🎷'), ("scales", '⚖'), ("scarf", '🧣'),
   ("school", '🏫'), ("school_backpack", '🎒'), ("school_satchel", '🎒'), ("scissors", '✂'),
   ("scorpio", '♏'), ("scorpion", '🦂'), ("scorpius", '♏'), ("scream", '😱'), ("scream_cat", '🙀'),
   ("scroll", '📜'), ("seat", '💺'), ("secret", '㊙'), ("see-no-evil_monkey", '🙈'),
   ("see_no_evil", '🙈'), ("seedling", '🌱'), ("seven-thirty", '🕢'), ("seven_o’clock", '🕖'),
   ("shallow_pan_of_food", '🥘'), ("shamrock", '☘'), ("shark", '🦈'), ("shaved_ice", '🍧'),
   ("sheaf_of_rice", '🌾'), ("sheep", '🐑'), ("shell", '🐚'), ("shield", '🛡'), ("shinto_shrine", '⛩'),
   ("ship", '🚢'), ("shirt", '👕'), ("shit", '💩'), ("shoe", '👞'), ("shooting_star", '🌠'),
   ("shopping_bags", '🛍'), ("shopping_cart", '🛒'), ("shortcake", '🍰'), ("shorts", '🩳'),
   ("shower", '🚿'), ("shrimp", '🦐'), ("shuffle_tracks_button", '🔀'), ("shushing_face", '🤫'),
   ("signal_strength", '📶'), ("six-thirty", '🕡'), ("six_o’clock", '🕕'), ("six_pointed_star", '🔯'),
   ("skateboard", '🛹'), ("ski", '🎿'), ("skier", '⛷'), ("skis", '🎿'), ("skull", '💀'),
   ("skull_and_crossbones", '☠'), ("skunk", '🦨'), ("sled", '🛷'), ("sleeping", '😴'),
   ("sleeping_accommodation", '🛌'), ("sleeping_face", '😴'), ("sleepy", '😪'), ("sleepy_face", '😪'),
   ("sleuth_or_spy", '🕵'), ("slightly_frowning_face", '🙁'), ("slightly_smiling_face", '🙂'),
   ("slot_machine", '🎰'), ("sloth", '🦥'), ("small_airplane", '🛩'), ("small_blue_diamond", '🔹'),
   ("small_orange_diamond", '🔸'), ("small_red_triangle", '🔺'), ("small_red_triangle_down", '🔻'),
   ("smile", '😄'), ("smile_cat", '😸'), ("smiley", '😃'), ("smiley_cat", '😺'),
   ("smiling_cat_face_with_heart-eyes", '😻'), ("smiling_face", '☺'),
   ("smiling_face_with_3_hearts", '🥰'), ("smiling_face_with_halo", '😇'),
   ("smiling_face_with_heart-eyes", '😍'), ("smiling_face_with_horns", '😈'),
   ("smiling_face_with_smiling_eyes", '😊'), ("smiling_face_with_sunglasses", '😎'),
   ("smiling_imp", '😈'), ("smirk", '😏'), ("smirk_cat", '😼'), ("smirking_face", '😏'),
   ("smoking", '🚬'), ("snail", '🐌'), ("snake", '🐍'), ("sneezing_face", '🤧'),
   ("snow-capped_mountain", '🏔'), ("snow_capped_mountain", '🏔'), ("snowflake", '❄'),
   ("snowman", '☃'), ("snowman_without_snow", '⛄'), ("soap", '🧼'), ("sob", '😭'), ("soccer", '⚽'),
   ("soccer_ball", '⚽'), ("socks", '🧦'), ("soft_ice_cream", '🍦'), ("softball", '🥎'), ("soon", '🔜'),
   ("soon_arrow", '🔜'), ("sos", '🆘'), ("sos_button", '🆘'), ("sound", '🔉'), ("space_invader", '👾'),
   ("spade_suit", '♠'), ("spades", '♠'), ("spaghetti", '🍝'), ("sparkle", '❇'), ("sparkler", '🎇'),
   ("sparkles", '✨'), ("sparkling_heart", '💖'), ("speak-no-evil_monkey", '🙊'),
   ("speak_no_evil", '🙊'), ("speaker", '🔈'), ("speaker_high_volume", '🔊'),
   ("speaker_low_volume", '🔈'), ("speaker_medium_volume", '🔉'), ("speaking_head", '🗣'),
   ("speaking_head_in_silhouette", '🗣'), ("speech_balloon", '💬'), ("speedboat", '🚤'),
   ("spider", '🕷'), ("spider_web", '🕸'), ("spiral_calendar", '🗓'), ("spiral_calendar_pad", '🗓'),
   ("spiral_note_pad", '🗒'), ("spiral_notepad", '🗒'), ("spiral_shell", '🐚'), ("sponge", '🧽'),
   ("spoon", '🥄'), ("sport_utility_vehicle", '🚙'), ("sports_medal", '🏅'), ("spouting_whale", '🐳'),
   ("squid", '🦑'), ("squinting_face_with_tongue", '😝'), ("stadium", '🏟'), ("star", '⭐'),
   ("star-struck", '🤩'), ("star2", '🌟'), ("star_and_crescent", '☪'), ("star_of_david", '✡'),
   ("stars", '🌠'), ("station", '🚉'), ("statue_of_liberty", '🗽'), ("steam_locomotive", '🚂'),
   ("steaming_bowl", '🍜'), ("stethoscope", '🩺'), ("stew", '🍲'), ("stop_button", '⏹'),
   ("stop_sign", '🛑'), ("stopwatch", '⏱'), ("straight_ruler", '📏'), ("strawberry", '🍓'),
   ("stuck_out_tongue", '😛'), ("stuck_out_tongue_closed_eyes", '😝'),
   ("stuck_out_tongue_winking_eye", '😜'), ("studio_microphone", '🎙'), ("stuffed_flatbread", '🥙'),
   ("sun", '☀'), ("sun_behind_cloud", '⛅'), ("sun_behind_large_cloud", '🌥'),
   ("sun_behind_rain_cloud", '🌦'), ("sun_behind_small_cloud", '🌤'), ("sun_with_face", '🌞'),
   ("sunflower", '🌻'), ("sunglasses", '😎'), ("sunny", '☀'), ("sunrise", '🌅'),
   ("sunrise_over_mountains", '🌄'), ("sunset", '🌇'), ("superhero", '🦸'), ("supervillain", '🦹'),
   ("surfer", '🏄'), ("sushi", '🍣'), ("suspension_railway", '🚟'), ("swan", '🦢'), ("sweat", '😓'),
   ("sweat_droplets", '💦'), ("sweat_drops", '💦'), ("sweat_smile", '😅'), ("sweet_potato", '🍠'),
   ("swimmer", '🏊'), ("symbols", '🔣'), ("synagogue", '🕍'), ("syringe", '💉'), ("t-rex", '🦖'),
   ("t-shirt", '👕'), ("table_tennis_paddle_and_ball", '🏓'), ("taco", '🌮'), ("tada", '🎉'),
   ("takeout_box", '🥡'), ("tanabata_tree", '🎋'), ("tangerine", '🍊'), ("taurus", '♉'), ("taxi", '🚕'),
   ("tea", '🍵'), ("teacup_without_handle", '🍵'), ("tear-off_calendar", '📆'), ("teddy_bear", '🧸'),
   ("telephone", '☎'), ("telephone_receiver", '📞'), ("telescope", '🔭'), ("television", '📺'),
   ("ten", '🔟'), ("ten-thirty", '🕥'), ("ten_o’clock", '🕙'), ("tennis", '🎾'), ("tent", '⛺'),
   ("test_tube", '🧪'), ("thermometer", '🌡'), ("thinking_face", '🤔'), ("thought_balloon", '💭'),
   ("thread", '🧵'), ("three-thirty", '🕞'), ("three_button_mouse", '🖱'), ("three_o’clock", '🕒'),
   ("thumbsdown", '👎'), ("thumbsup", '👍'), ("thunder_cloud_and_rain", '⛈'), ("ticket", '🎫'),
   ("tiger", '🐯'), ("tiger2", '🐅'), ("tiger_face", '🐯'), ("timer_clock", '⏲'), ("tired_face", '😫'),
   ("tm", '™'), ("toilet", '🚽'), ("tokyo_tower", '🗼'), ("tomato", '🍅'), ("tongue", '👅'),
   ("toolbox", '🧰'), ("tooth", '🦷'), ("top", '🔝'), ("top_arrow", '🔝'), ("top_hat", '🎩'),
   ("tophat", '🎩'), ("tornado", '🌪'), ("trackball", '🖲'), ("tractor", '🚜'), ("trade_mark", '™'),
   ("traffic_light", '🚥'), ("train", '🚋'), ("train2", '🚆'), ("tram", '🚊'), ("tram_car", '🚋'),
   ("triangular_flag", '🚩'), ("triangular_flag_on_post", '🚩'), ("triangular_ruler", '📐'),
   ("trident", '🔱'), ("trident_emblem", '🔱'), ("triumph", '😤'), ("trolleybus", '🚎'),
   ("trophy", '🏆'), ("tropical_drink", '🍹'), ("tropical_fish", '🐠'), ("truck", '🚚'),
   ("trumpet", '🎺'), ("tshirt", '👕'), ("tulip", '🌷'), ("tumbler_glass", '🥃'), ("turkey", '🦃'),
   ("turtle", '🐢'), ("tv", '📺'), ("twelve-thirty", '🕧'), ("twelve_o’clock", '🕛'),
   ("twisted_rightwards_arrows", '🔀'), ("two-hump_camel", '🐫'), ("two-thirty", '🕝'),
   ("two_hearts", '💕'), ("two_men_holding_hands", '👬'), ("two_o’clock", '🕑'),
   ("two_women_holding_hands", '👭'), ("u5272", '🈹'), ("u5408", '🈴'), ("u55b6", '🈺'), ("u6307", '🈯'),
   ("u6708", '🈷'), ("u6709", '🈶'), ("u6e80", '🈵'), ("u7121", '🈚'), ("u7533", '🈸'), ("u7981", '🈲'),
   ("u7a7a", '🈳'), ("umbrella", '☂'), ("umbrella_on_ground", '⛱'),
   ("umbrella_with_rain_drops", '☔'), ("unamused", '😒'), ("unamused_face", '😒'), ("underage", '🔞'),
   ("unicorn_face", '🦄'), ("unlock", '🔓'), ("unlocked", '🔓'), ("up", '🆙'), ("up!_button", '🆙'),
   ("up-down_arrow", '↕'), ("up-left_arrow", '↖'), ("up-right_arrow", '↗'), ("up_arrow", '⬆'),
   ("upside-down_face", '🙃'), ("upside__down_face", '🙃'), ("upwards_button", '🔼'), ("v", '✌'),
   ("vertical_traffic_light", '🚦'), ("vhs", '📼'), ("vibration_mode", '📳'), ("video_camera", '📹'),
   ("video_game", '🎮'), ("videocassette", '📼'), ("violin", '🎻'), ("virgo", '♍'), ("volcano", '🌋'),
   ("volleyball", '🏐'), ("vs", '🆚'), ("vs_button", '🆚'), ("waffle", '🧇'), ("walking", '🚶'),
   ("waning_crescent_moon", '🌘'), ("waning_gibbous_moon", '🌖'), ("warning", '⚠'),
   ("wastebasket", '🗑'), ("watch", '⌚'), ("water_buffalo", '🐃'), ("water_closet", '🚾'),
   ("water_wave", '🌊'), ("watermelon", '🍉'), ("wave", '👋'), ("waving_black_flag", '🏴'),
   ("waving_white_flag", '🏳'), ("wavy_dash", '〰'), ("waxing_crescent_moon", '🌒'),
   ("waxing_gibbous_moon", '🌔'), ("wc", '🚾'), ("weary", '😩'), ("weary_cat_face", '🙀'),
   ("weary_face", '😩'), ("wedding", '💒'), ("weight_lifter", '🏋'), ("whale", '🐳'), ("whale2", '🐋'),
   ("wheel_of_dharma", '☸'), ("wheelchair", '♿'), ("wheelchair_symbol", '♿'),
   ("white_check_mark", '✅'), ("white_circle", '⚪'), ("white_exclamation_mark", '❕'),
   ("white_flag", '🏳'), ("white_flower", '💮'), ("white_frowning_face", '☹'), ("white_hair", '🦳'),
   ("white_heart", '🤍'), ("white_heavy_check_mark", '✅'), ("white_large_square", '⬜'),
   ("white_medium-small_square", '◽'), ("white_medium_small_square", '◽'),
   ("white_medium_square", '◻'), ("white_medium_star", '⭐'), ("white_question_mark", '❔'),
   ("white_small_square", '▫'), ("white_square_button", '🔳'), ("white_sun_behind_cloud", '🌥'),
   ("white_sun_behind_cloud_with_rain", '🌦'), ("white_sun_with_small_cloud", '🌤'),
   ("wilted_flower", '🥀'), ("wind_blowing_face", '🌬'), ("wind_chime", '🎐'), ("wind_face", '🌬'),
   ("wine_glass", '🍷'), ("wink", '😉'), ("winking_face", '😉'), ("winking_face_with_tongue", '😜'),
   ("wolf", '🐺'), ("wolf_face", '🐺'), ("womans_clothes", '👚'), ("womans_hat", '👒'),
   ("woman’s_boot", '👢'), ("woman’s_clothes", '👚'), ("woman’s_hat", '👒'), ("woman’s_sandal", '👡'),
   ("womens", '🚺'), ("women’s_room", '🚺'), ("woozy_face", '🥴'), ("world_map", '🗺'),
   ("worried", '😟'), ("worried_face", '😟'), ("wrapped_gift", '🎁'), ("wrench", '🔧'), ("x", '❌'),
   ("yarn", '🧶'), ("yawning_face", '🥱'), ("yellow_circle", '🟡'), ("yellow_heart", '💛'),
   ("yellow_square", '🟨'), ("yen", '💴'), ("yen_banknote", '💴'), ("yin_yang", '☯'), ("yo-yo", '🪀'),
   ("yum", '😋'), ("zany_face", '🤪'), ("zap", '⚡'), ("zebra", '🦓'), ("zipper-mouth_face", '🤐'),
   ("zipper__mouth_face", '🤐'), ("zombie", '🧟'), ("zzz", '💤')]

/-- A letter as a part of a flag. -/
def flagPart (letter : Char) : Char := Char.ofNat (0x1F1E6 + (letter.toNat - 0x41))

/-- The flags that have two names, of which the longer one says that it is a flag. -/
def countryFlags : List (String × Char × Char) :=
  [("afghanistan", 'A', 'F'), ("albania", 'A', 'L'), ("algeria", 'D', 'Z'),
   ("american_samoa", 'A', 'S'), ("andorra", 'A', 'D'), ("angola", 'A', 'O'),
   ("anguilla", 'A', 'I'), ("antarctica", 'A', 'Q'), ("antigua_&_barbuda", 'A', 'G'),
   ("argentina", 'A', 'R'), ("armenia", 'A', 'M'), ("aruba", 'A', 'W'),
   ("ascension_island", 'A', 'C'), ("australia", 'A', 'U'), ("austria", 'A', 'T'),
   ("azerbaijan", 'A', 'Z'), ("bahamas", 'B', 'S'), ("bahrain", 'B', 'H'), ("bangladesh", 'B', 'D'),
   ("barbados", 'B', 'B'), ("belarus", 'B', 'Y'), ("belgium", 'B', 'E'), ("belize", 'B', 'Z'),
   ("benin", 'B', 'J'), ("bermuda", 'B', 'M'), ("bhutan", 'B', 'T'), ("bolivia", 'B', 'O'),
   ("bosnia_&_herzegovina", 'B', 'A'), ("botswana", 'B', 'W'), ("bouvet_island", 'B', 'V'),
   ("brazil", 'B', 'R'), ("british_indian_ocean_territory", 'I', 'O'),
   ("british_virgin_islands", 'V', 'G'), ("brunei", 'B', 'N'), ("bulgaria", 'B', 'G'),
   ("burkina_faso", 'B', 'F'), ("burundi", 'B', 'I'), ("cambodia", 'K', 'H'),
   ("cameroon", 'C', 'M'), ("canada", 'C', 'A'), ("canary_islands", 'I', 'C'),
   ("cape_verde", 'C', 'V'), ("caribbean_netherlands", 'B', 'Q'), ("cayman_islands", 'K', 'Y'),
   ("central_african_republic", 'C', 'F'), ("ceuta_&_melilla", 'E', 'A'), ("chad", 'T', 'D'),
   ("chile", 'C', 'L'), ("china", 'C', 'N'), ("christmas_island", 'C', 'X'),
   ("clipperton_island", 'C', 'P'), ("colombia", 'C', 'O'), ("comoros", 'K', 'M'),
   ("cook_islands", 'C', 'K'), ("costa_rica", 'C', 'R'), ("croatia", 'H', 'R'), ("cuba", 'C', 'U'),
   ("curaçao", 'C', 'W'), ("cyprus", 'C', 'Y'), ("côte_d’ivoire", 'C', 'I'), ("denmark", 'D', 'K'),
   ("diego_garcia", 'D', 'G'), ("djibouti", 'D', 'J'), ("dominica", 'D', 'M'),
   ("dominican_republic", 'D', 'O'), ("ecuador", 'E', 'C'), ("egypt", 'E', 'G'),
   ("el_salvador", 'S', 'V'), ("equatorial_guinea", 'G', 'Q'), ("eritrea", 'E', 'R'),
   ("estonia", 'E', 'E'), ("ethiopia", 'E', 'T'), ("european_union", 'E', 'U'),
   ("falkland_islands", 'F', 'K'), ("faroe_islands", 'F', 'O'), ("fiji", 'F', 'J'),
   ("finland", 'F', 'I'), ("france", 'F', 'R'), ("french_guiana", 'G', 'F'),
   ("french_polynesia", 'P', 'F'), ("french_southern_territories", 'T', 'F'), ("gabon", 'G', 'A'),
   ("gambia", 'G', 'M'), ("georgia", 'G', 'E'), ("germany", 'D', 'E'), ("ghana", 'G', 'H'),
   ("gibraltar", 'G', 'I'), ("greece", 'G', 'R'), ("greenland", 'G', 'L'), ("grenada", 'G', 'D'),
   ("guadeloupe", 'G', 'P'), ("guam", 'G', 'U'), ("guatemala", 'G', 'T'), ("guernsey", 'G', 'G'),
   ("guinea", 'G', 'N'), ("guyana", 'G', 'Y'), ("haiti", 'H', 'T'),
   ("heard_&_mcdonald_islands", 'H', 'M'), ("honduras", 'H', 'N'), ("hungary", 'H', 'U'),
   ("iceland", 'I', 'S'), ("india", 'I', 'N'), ("indonesia", 'I', 'D'), ("iran", 'I', 'R'),
   ("iraq", 'I', 'Q'), ("ireland", 'I', 'E'), ("isle_of_man", 'I', 'M'), ("israel", 'I', 'L'),
   ("italy", 'I', 'T'), ("jamaica", 'J', 'M'), ("jersey", 'J', 'E'), ("jordan", 'J', 'O'),
   ("kazakhstan", 'K', 'Z'), ("kenya", 'K', 'E'), ("kiribati", 'K', 'I'), ("kosovo", 'X', 'K'),
   ("kuwait", 'K', 'W'), ("kyrgyzstan", 'K', 'G'), ("laos", 'L', 'A'), ("latvia", 'L', 'V'),
   ("lebanon", 'L', 'B'), ("lesotho", 'L', 'S'), ("liberia", 'L', 'R'), ("libya", 'L', 'Y'),
   ("liechtenstein", 'L', 'I'), ("lithuania", 'L', 'T'), ("luxembourg", 'L', 'U'),
   ("macedonia", 'M', 'K'), ("madagascar", 'M', 'G'), ("malawi", 'M', 'W'), ("malaysia", 'M', 'Y'),
   ("maldives", 'M', 'V'), ("mali", 'M', 'L'), ("malta", 'M', 'T'), ("marshall_islands", 'M', 'H'),
   ("martinique", 'M', 'Q'), ("mauritania", 'M', 'R'), ("mauritius", 'M', 'U'),
   ("mayotte", 'Y', 'T'), ("mexico", 'M', 'X'), ("micronesia", 'F', 'M'), ("moldova", 'M', 'D'),
   ("monaco", 'M', 'C'), ("mongolia", 'M', 'N'), ("montenegro", 'M', 'E'), ("montserrat", 'M', 'S'),
   ("morocco", 'M', 'A'), ("mozambique", 'M', 'Z'), ("namibia", 'N', 'A'), ("nauru", 'N', 'R'),
   ("nepal", 'N', 'P'), ("netherlands", 'N', 'L'), ("new_caledonia", 'N', 'C'),
   ("new_zealand", 'N', 'Z'), ("nicaragua", 'N', 'I'), ("niger", 'N', 'E'), ("nigeria", 'N', 'G'),
   ("niue", 'N', 'U'), ("norfolk_island", 'N', 'F'), ("north_korea", 'K', 'P'),
   ("northern_mariana_islands", 'M', 'P'), ("norway", 'N', 'O'), ("oman", 'O', 'M'),
   ("pakistan", 'P', 'K'), ("palau", 'P', 'W'), ("palestinian_territories", 'P', 'S'),
   ("panama", 'P', 'A'), ("papua_new_guinea", 'P', 'G'), ("paraguay", 'P', 'Y'), ("peru", 'P', 'E'),
   ("philippines", 'P', 'H'), ("pitcairn_islands", 'P', 'N'), ("poland", 'P', 'L'),
   ("portugal", 'P', 'T'), ("puerto_rico", 'P', 'R'), ("qatar", 'Q', 'A'), ("romania", 'R', 'O'),
   ("russia", 'R', 'U'), ("rwanda", 'R', 'W'), ("réunion", 'R', 'E'), ("samoa", 'W', 'S'),
   ("san_marino", 'S', 'M'), ("saudi_arabia", 'S', 'A'), ("senegal", 'S', 'N'),
   ("serbia", 'R', 'S'), ("seychelles", 'S', 'C'), ("sierra_leone", 'S', 'L'),
   ("singapore", 'S', 'G'), ("sint_maarten", 'S', 'X'), ("slovakia", 'S', 'K'),
   ("slovenia", 'S', 'I'), ("solomon_islands", 'S', 'B'), ("somalia", 'S', 'O'),
   ("south_africa", 'Z', 'A'), ("south_georgia_&_south_sandwich_islands", 'G', 'S'),
   ("south_korea", 'K', 'R'), ("south_sudan", 'S', 'S'), ("spain", 'E', 'S'),
   ("sri_lanka", 'L', 'K'), ("st._barthélemy", 'B', 'L'), ("st._helena", 'S', 'H'),
   ("st._kitts_&_nevis", 'K', 'N'), ("st._lucia", 'L', 'C'), ("st._martin", 'M', 'F'),
   ("st._pierre_&_miquelon", 'P', 'M'), ("st._vincent_&_grenadines", 'V', 'C'), ("sudan", 'S', 'D'),
   ("suriname", 'S', 'R'), ("svalbard_&_jan_mayen", 'S', 'J'), ("swaziland", 'S', 'Z'),
   ("sweden", 'S', 'E'), ("switzerland", 'C', 'H'), ("syria", 'S', 'Y'),
   ("são_tomé_&_príncipe", 'S', 'T'), ("taiwan", 'T', 'W'), ("tajikistan", 'T', 'J'),
   ("tanzania", 'T', 'Z'), ("thailand", 'T', 'H'), ("togo", 'T', 'G'), ("tokelau", 'T', 'K'),
   ("tonga", 'T', 'O'), ("trinidad_&_tobago", 'T', 'T'), ("tristan_da_cunha", 'T', 'A'),
   ("tunisia", 'T', 'N'), ("turkmenistan", 'T', 'M'), ("turks_&_caicos_islands", 'T', 'C'),
   ("tuvalu", 'T', 'V'), ("u.s._outlying_islands", 'U', 'M'), ("u.s._virgin_islands", 'V', 'I'),
   ("uganda", 'U', 'G'), ("ukraine", 'U', 'A'), ("united_arab_emirates", 'A', 'E'),
   ("united_kingdom", 'G', 'B'), ("united_states", 'U', 'S'), ("uruguay", 'U', 'Y'),
   ("uzbekistan", 'U', 'Z'), ("vanuatu", 'V', 'U'), ("vatican_city", 'V', 'A'),
   ("venezuela", 'V', 'E'), ("vietnam", 'V', 'N'), ("wallis_&_futuna", 'W', 'F'),
   ("western_sahara", 'E', 'H'), ("yemen", 'Y', 'E'), ("zambia", 'Z', 'M'), ("zimbabwe", 'Z', 'W'),
   ("åland_islands", 'A', 'X')]

/-- The other names of flags. -/
def otherFlags : List (String × Char × Char) :=
  [("cocos_(keeling)_islands", 'C', 'C'), ("congo_-_brazzaville", 'C', 'G'),
   ("congo_-_kinshasa", 'C', 'D'), ("czechia", 'C', 'Z'), ("flag_for_cocos__islands", 'C', 'C'),
   ("flag_for_congo____brazzaville", 'C', 'G'), ("flag_for_congo____kinshasa", 'C', 'D'),
   ("flag_for_czech_republic", 'C', 'Z'), ("flag_for_guinea__bissau", 'G', 'W'),
   ("flag_for_hong_kong", 'H', 'K'), ("flag_for_japan", 'J', 'P'), ("flag_for_macau", 'M', 'O'),
   ("flag_for_myanmar", 'M', 'M'), ("flag_for_timor__leste", 'T', 'L'),
   ("flag_for_turkey", 'T', 'R'), ("guinea-bissau", 'G', 'W'), ("hong_kong_sar_china", 'H', 'K'),
   ("macau_sar_china", 'M', 'O'), ("myanmar_(burma)", 'M', 'M'), ("timor-leste", 'T', 'L'),
   ("united_nations", 'U', 'N')]

/-- A letter as a mark of a region behind a flag. -/
def tag (letter : Char) : Char := Char.ofNat (0xE0000 + letter.toNat)

/-- The pictures of several characters. -/
def joinedPictures : List (String × List Char) :=
  [("bald_man", ['👨', '\u200D', '🦲']), ("bald_woman", ['👩', '\u200D', '🦲']),
   ("couple_with_heart_man_man", ['👨', '\u200D', '❤', '\uFE0F', '\u200D', '👨']),
   ("couple_with_heart_woman_man", ['👩', '\u200D', '❤', '\uFE0F', '\u200D', '👨']),
   ("couple_with_heart_woman_woman", ['👩', '\u200D', '❤', '\uFE0F', '\u200D', '👩']),
   ("curly-haired_man", ['👨', '\u200D', '🦱']), ("curly-haired_woman", ['👩', '\u200D', '🦱']),
   ("eight", ['8', '\uFE0F', '\u20E3']),
   ("england", ['🏴', tag 'g', tag 'b', tag 'e', tag 'n', tag 'g', tag '\x7F']),
   ("eye_in_speech_bubble", ['👁', '\uFE0F', '\u200D', '🗨', '\uFE0F']),
   ("five", ['5', '\uFE0F', '\u20E3']), ("four", ['4', '\uFE0F', '\u20E3']),
   ("keycap_#", ['#', '\uFE0F', '\u20E3']), ("keycap_*", ['*', '\uFE0F', '\u20E3']),
   ("keycap_0", ['0', '\uFE0F', '\u20E3']), ("keycap_1", ['1', '\uFE0F', '\u20E3']),
   ("keycap_2", ['2', '\uFE0F', '\u20E3']), ("keycap_3", ['3', '\uFE0F', '\u20E3']),
   ("keycap_4", ['4', '\uFE0F', '\u20E3']), ("keycap_5", ['5', '\uFE0F', '\u20E3']),
   ("keycap_6", ['6', '\uFE0F', '\u20E3']), ("keycap_7", ['7', '\uFE0F', '\u20E3']),
   ("keycap_8", ['8', '\uFE0F', '\u20E3']), ("keycap_9", ['9', '\uFE0F', '\u20E3']),
   ("keycap_asterisk", ['*', '\u20E3']), ("keycap_digit_eight", ['8', '\u20E3']),
   ("keycap_digit_five", ['5', '\u20E3']), ("keycap_digit_four", ['4', '\u20E3']),
   ("keycap_digit_nine", ['9', '\u20E3']), ("keycap_digit_one", ['1', '\u20E3']),
   ("keycap_digit_seven", ['7', '\u20E3']), ("keycap_digit_six", ['6', '\u20E3']),
   ("keycap_digit_three", ['3', '\u20E3']), ("keycap_digit_two", ['2', '\u20E3']),
   ("keycap_digit_zero", ['0', '\u20E3']), ("keycap_number_sign", ['#', '\u20E3']),
   ("kiss_man_man", ['👨', '\u200D', '❤', '\uFE0F', '\u200D', '💋', '\u200D', '👨']),
   ("kiss_woman_man", ['👩', '\u200D', '❤', '\uFE0F', '\u200D', '💋', '\u200D', '👨']),
   ("kiss_woman_woman", ['👩', '\u200D', '❤', '\uFE0F', '\u200D', '💋', '\u200D', '👩']),
   ("man_genie", ['🧞', '\u200D', '♂', '\uFE0F']),
   ("man_in_manual_wheelchair", ['👨', '\u200D', '🦽']),
   ("man_in_motorized_wheelchair", ['👨', '\u200D', '🦼']),
   ("man_with_probing_cane", ['👨', '\u200D', '🦯']), ("man_zombie", ['🧟', '\u200D', '♂', '\uFE0F']),
   ("men_with_bunny_ears", ['👯', '\u200D', '♂', '\uFE0F']),
   ("men_wrestling", ['🤼', '\u200D', '♂', '\uFE0F']), ("nine", ['9', '\uFE0F', '\u20E3']),
   ("one", ['1', '\uFE0F', '\u20E3']),
   ("people_holding_hands", ['🧑', '\u200D', '🤝', '\u200D', '🧑']),
   ("pirate_flag", ['🏴', '\u200D', '☠', '\uFE0F']),
   ("rainbow_flag", ['🏳', '\uFE0F', '\u200D', '🌈']), ("red-haired_man", ['👨', '\u200D', '🦰']),
   ("red-haired_woman", ['👩', '\u200D', '🦰']),
   ("scotland", ['🏴', tag 'g', tag 'b', tag 's', tag 'c', tag 't', tag '\x7F']),
   ("service_dog", ['🐕', '\u200D', '🦺']), ("seven", ['7', '\uFE0F', '\u20E3']),
   ("six", ['6', '\uFE0F', '\u20E3']), ("three", ['3', '\uFE0F', '\u20E3']),
   ("two", ['2', '\uFE0F', '\u20E3']),
   ("wales", ['🏴', tag 'g', tag 'b', tag 'w', tag 'l', tag 's', tag '\x7F']),
   ("white-haired_man", ['👨', '\u200D', '🦳']), ("white-haired_woman", ['👩', '\u200D', '🦳']),
   ("woman_genie", ['🧞', '\u200D', '♀', '\uFE0F']),
   ("woman_in_manual_wheelchair", ['👩', '\u200D', '🦽']),
   ("woman_in_motorized_wheelchair", ['👩', '\u200D', '🦼']),
   ("woman_with_probing_cane", ['👩', '\u200D', '🦯']),
   ("woman_zombie", ['🧟', '\u200D', '♀', '\uFE0F']),
   ("women_with_bunny_ears", ['👯', '\u200D', '♀', '\uFE0F']),
   ("women_wrestling", ['🤼', '\u200D', '♀', '\uFE0F']), ("zero", ['0', '\uFE0F', '\u20E3'])]

/-- The members of families. -/
def families : List (String × List Char) :=
  [("man_boy", ['👨', '👦']), ("man_boy_boy", ['👨', '👦', '👦']), ("man_girl", ['👨', '👧']),
   ("man_girl_boy", ['👨', '👧', '👦']), ("man_girl_girl", ['👨', '👧', '👧']),
   ("man_man_boy", ['👨', '👨', '👦']), ("man_man_boy_boy", ['👨', '👨', '👦', '👦']),
   ("man_man_girl", ['👨', '👨', '👧']), ("man_man_girl_boy", ['👨', '👨', '👧', '👦']),
   ("man_man_girl_girl", ['👨', '👨', '👧', '👧']), ("man_woman_boy", ['👨', '👩', '👦']),
   ("man_woman_boy_boy", ['👨', '👩', '👦', '👦']), ("man_woman_girl", ['👨', '👩', '👧']),
   ("man_woman_girl_boy", ['👨', '👩', '👧', '👦']), ("man_woman_girl_girl", ['👨', '👩', '👧', '👧']),
   ("woman_boy", ['👩', '👦']), ("woman_boy_boy", ['👩', '👦', '👦']), ("woman_girl", ['👩', '👧']),
   ("woman_girl_boy", ['👩', '👧', '👦']), ("woman_girl_girl", ['👩', '👧', '👧']),
   ("woman_woman_boy", ['👩', '👩', '👦']), ("woman_woman_boy_boy", ['👩', '👩', '👦', '👦']),
   ("woman_woman_girl", ['👩', '👩', '👧']), ("woman_woman_girl_boy", ['👩', '👩', '👧', '👦']),
   ("woman_woman_girl_girl", ['👩', '👩', '👧', '👧'])]

/-- The pictures of people and of hands that have a name of their own. -/
def persons : List (String × List Char) :=
  [("adult", ['🧑']), ("baby", ['👶']), ("baby_angel", ['👼']),
   ("backhand_index_pointing_down", ['👇']), ("backhand_index_pointing_left", ['👈']),
   ("backhand_index_pointing_right", ['👉']), ("backhand_index_pointing_up", ['👆']),
   ("bearded_person", ['🧔']), ("blond-haired_man", ['👱', '\u200D', '♂', '\uFE0F']),
   ("blond-haired_person", ['👱']), ("blond-haired_woman", ['👱', '\u200D', '♀', '\uFE0F']),
   ("boy", ['👦']), ("breast-feeding", ['🤱']), ("bride_with_veil", ['👰']), ("call_me_hand", ['🤙']),
   ("child", ['🧒']), ("clapping_hands", ['👏']), ("construction_worker", ['👷']),
   ("crossed_fingers", ['🤞']), ("detective", ['🕵']), ("ear", ['👂']), ("elf", ['🧝']),
   ("fairy", ['🧚']), ("flexed_biceps", ['💪']), ("folded_hands", ['🙏']), ("girl", ['👧']),
   ("guard", ['💂']), ("hand_with_fingers_splayed", ['🖐']), ("horse_racing", ['🏇']),
   ("index_pointing_up", ['☝']), ("left-facing_fist", ['🤛']), ("love-you_gesture", ['🤟']),
   ("mage", ['🧙']), ("man", ['👨']), ("man_dancing", ['🕺']), ("man_in_suit_levitating", ['🕴']),
   ("man_in_tuxedo", ['🤵']), ("man_with_chinese_cap", ['👲']),
   ("mermaid", ['🧜', '\u200D', '♀', '\uFE0F']), ("merman", ['🧜', '\u200D', '♂', '\uFE0F']),
   ("merperson", ['🧜']), ("middle_finger", ['🖕']), ("mrs._claus", ['🤶']), ("nail_polish", ['💅']),
   ("nose", ['👃']), ("ok_hand", ['👌']), ("old_man", ['👴']), ("old_woman", ['👵']),
   ("older_adult", ['🧓']), ("oncoming_fist", ['👊']), ("open_hands", ['👐']),
   ("palms_up_together", ['🤲']), ("person_biking", ['🚴']), ("person_bouncing_ball", ['⛹']),
   ("person_bowing", ['🙇']), ("person_cartwheeling", ['🤸']), ("person_climbing", ['🧗']),
   ("person_facepalming", ['🤦']), ("person_frowning", ['🙍']), ("person_gesturing_no", ['🙅']),
   ("person_gesturing_ok", ['🙆']), ("person_getting_haircut", ['💇']),
   ("person_getting_massage", ['💆']), ("person_golfing", ['🏌']), ("person_in_bed", ['🛌']),
   ("person_in_lotus_position", ['🧘']), ("person_in_steamy_room", ['🧖']),
   ("person_juggling", ['🤹']), ("person_lifting_weights", ['🏋']), ("person_mountain_biking", ['🚵']),
   ("person_playing_handball", ['🤾']), ("person_playing_water_polo", ['🤽']),
   ("person_pouting", ['🙎']), ("person_raising_hand", ['🙋']), ("person_rowing_boat", ['🚣']),
   ("person_running", ['🏃']), ("person_shrugging", ['🤷']), ("person_surfing", ['🏄']),
   ("person_swimming", ['🏊']), ("person_taking_bath", ['🛀']), ("person_tipping_hand", ['💁']),
   ("person_walking", ['🚶']), ("person_wearing_turban", ['👳']), ("police_officer", ['👮']),
   ("pregnant_woman", ['🤰']), ("prince", ['🤴']), ("princess", ['👸']),
   ("raised_back_of_hand", ['🤚']), ("raised_fist", ['✊']), ("raised_hand", ['✋']),
   ("raising_hands", ['🙌']), ("right-facing_fist", ['🤜']), ("santa_claus", ['🎅']),
   ("selfie", ['🤳']), ("sign_of_the_horns", ['🤘']), ("snowboarder", ['🏂']), ("thumbs_down", ['👎']),
   ("thumbs_up", ['👍']), ("vampire", ['🧛']), ("victory_hand", ['✌']), ("vulcan_salute", ['🖖']),
   ("waving_hand", ['👋']), ("woman", ['👩']), ("woman_dancing", ['💃']),
   ("woman_with_headscarf", ['🧕']), ("writing_hand", ['✍'])]

/-- What people do, shown by a person with the sign of a man or a woman behind it. -/
def activities : List (String × List Char) :=
  [("biking", ['🚴']), ("bouncing_ball", ['⛹', '\uFE0F']), ("bowing", ['🙇']),
   ("cartwheeling", ['🤸']), ("climbing", ['🧗']), ("construction_worker", ['👷']),
   ("detective", ['🕵', '\uFE0F']), ("elf", ['🧝']), ("facepalming", ['🤦']), ("fairy", ['🧚']),
   ("frowning", ['🙍']), ("gesturing_no", ['🙅']), ("gesturing_ok", ['🙆']),
   ("getting_haircut", ['💇']), ("getting_massage", ['💆']), ("golfing", ['🏌', '\uFE0F']),
   ("guard", ['💂']), ("in_lotus_position", ['🧘']), ("in_steamy_room", ['🧖']), ("juggling", ['🤹']),
   ("lifting_weights", ['🏋', '\uFE0F']), ("mage", ['🧙']), ("mountain_biking", ['🚵']),
   ("playing_handball", ['🤾']), ("playing_water_polo", ['🤽']), ("police_officer", ['👮']),
   ("pouting", ['🙎']), ("raising_hand", ['🙋']), ("rowing_boat", ['🚣']), ("running", ['🏃']),
   ("shrugging", ['🤷']), ("surfing", ['🏄']), ("swimming", ['🏊']), ("tipping_hand", ['💁']),
   ("vampire", ['🧛']), ("walking", ['🚶']), ("wearing_turban", ['👳'])]

/-- What people work as, shown by a thing behind a man or a woman. -/
def professions : List (String × List Char) :=
  [("artist", ['🎨']), ("astronaut", ['🚀']), ("cook", ['🍳']), ("factory_worker", ['🏭']),
   ("farmer", ['🌾']), ("firefighter", ['🚒']), ("health_worker", ['⚕', '\uFE0F']),
   ("judge", ['⚖', '\uFE0F']), ("mechanic", ['🔧']), ("office_worker", ['💼']),
   ("pilot", ['✈', '\uFE0F']), ("scientist", ['🔬']), ("singer", ['🎤']), ("student", ['🎓']),
   ("teacher", ['🏫']), ("technologist", ['💻'])]

/-- The tones of the skin and the characters that choose them. -/
def skinTones : List (String × Char) :=
  [("light", '🏻'), ("medium-light", '🏼'), ("medium", '🏽'), ("medium-dark", '🏾'), ("dark", '🏿')]

/-- A flag with its two names. -/
def withLongName (entry : String × Char × Char) : List (String × List Char) :=
  let (name, first, second) := entry
  let flag := [flagPart first, flagPart second]
  [(name, flag), ("flag_for_" ++ name, flag)]

/-- A family, whose members are joined. -/
def asFamily (entry : String × List Char) : String × List Char :=
  ("family_" ++ entry.1, entry.2.intersperse joiner)

/-- A person as a man and as a woman. -/
def withSigns (entry : String × List Char) : List (String × List Char) :=
  [("man_" ++ entry.1, entry.2 ++ [joiner, '♂', pictureSelector]),
    ("woman_" ++ entry.1, entry.2 ++ [joiner, '♀', pictureSelector])]

/-- A man and a woman with a thing. -/
def withThing (entry : String × List Char) : List (String × List Char) :=
  [("man_" ++ entry.1, '👨' :: joiner :: entry.2), ("woman_" ++ entry.1, '👩' :: joiner :: entry.2)]

/-- The pictures that come in all tones. -/
def people : List (String × List Char) :=
  persons ++ activities.flatMap withSigns ++ professions.flatMap withThing

/-- The picture in a tone, which stands behind its first character in place of a selector. -/
def inTone (tone : Char) : List Char → List Char
  | [] => []
  | c :: '\uFE0F' :: rest => c :: tone :: rest
  | c :: rest => c :: tone :: rest

/-- A picture in its own color and in all tones. -/
def withTones (entry : String × List Char) : List (String × List Char) :=
  entry :: skinTones.map fun (name, tone) =>
    (entry.1 ++ "_" ++ name ++ "_skin_tone", inTone tone entry.2)

/-- The pictures by their names. -/
def pictures : List (String × List Char) :=
  singlePictures.map (fun (name, c) => (name, [c]))
    ++ countryFlags.flatMap withLongName
    ++ otherFlags.map (fun (name, first, second) => (name, [flagPart first, flagPart second]))
    ++ joinedPictures
    ++ families.map asFamily
    ++ people.flatMap withTones

end Runbook.Console
