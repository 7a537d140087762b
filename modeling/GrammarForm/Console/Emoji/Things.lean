/-!
# Things and faces

Emoji of things, faces, vehicles and activities.  Each word is a name with its emoji.

## Main definitions

* `Emoji.things` : the names of such emoji.
-/

namespace GrammarForm.Console.Emoji

/-- The names of emoji of things, faces, vehicles and activities. -/
def things : String :=
  "1234=🔢 1st_place_medal=🥇 2nd_place_medal=🥈 3rd_place_medal=🥉 abacus=🧮 abc=🔤 abcd=🔡
   adhesive_bandage=🩹 aerial_tramway=🚡 airplane_arrival=🛬 airplane_arriving=🛬
   airplane_departure=🛫 ambulance=🚑 angry=😠 angry_face=😠 anguished=😧 anguished_face=😧
   anxious_face_with_sweat=😰 arrow_down_small=🔽 arrow_up_small=🔼 arrows_clockwise=🔃
   arrows_counterclockwise=🔄 articulated_lorry=🚛 astonished=😲 astonished_face=😲 auto_rickshaw=🛺
   automobile=🚗 avocado=🥑 axe=🪓 baby_symbol=🚼 back=🔙 back_arrow=🔙 bacon=🥓 badger=🦡 bagel=🥯
   baggage_claim=🛄 baguette_bread=🥖 bald=🦲 ballet_shoes=🩰 ballot_box_with_ballot=🗳 banjo=🪕
   basket=🧺 bat=🦇 bath=🛀 bathtub=🛁 battery=🔋 beaming_face_with_smiling_eyes=😁 bed=🛏 beginner=🔰
   bell=🔔 bell_with_slash=🔕 bellhop_bell=🛎 beverage_box=🧃 bicycle=🚲 bicyclist=🚴 bike=🚲
   billed_cap=🧢 black_heart=🖤 black_square_button=🔲 blue_car=🚙 blue_circle=🔵 blue_square=🟦
   blush=😊 bone=🦴 bookmark=🔖 bow=🙇 bowl_with_spoon=🥣 boxing_glove=🥊 brain=🧠 brick=🧱 briefs=🩲
   bright_button=🔆 broccoli=🥦 broom=🧹 brown_circle=🟤 brown_heart=🤎 brown_square=🟫
   bullet_train=🚅 bullettrain_front=🚅 bullettrain_side=🚄 bus=🚌 bus_stop=🚏 busstop=🚏 butter=🧈
   butterfly=🦋 candle=🕯 canned_food=🥫 canoe=🛶 capital_abcd=🔠 car=🚗 card_file_box=🗃
   card_index_dividers=🗂 carrot=🥕 cat_face_with_tears_of_joy=😹 cat_face_with_wry_smile=😼
   chair=🪑 cheese_wedge=🧀 children_crossing=🚸 chopsticks=🥢 cigarette=🚬 clamp=🗜
   clinking_glasses=🥂 clock1=🕐 clock10=🕙 clock1030=🕥 clock11=🕚 clock1130=🕦 clock12=🕛
   clock1230=🕧 clock130=🕜 clock2=🕑 clock230=🕝 clock3=🕒 clock330=🕞 clock4=🕓 clock430=🕟 clock5=🕔
   clock530=🕠 clock6=🕕 clock630=🕡 clock7=🕖 clock730=🕢 clock8=🕗 clock830=🕣 clock9=🕘 clock930=🕤
   clockwise_vertical_arrows=🔃 closed_lock_with_key=🔐 clown_face=🤡 coat=🧥 coconut=🥥 cold_face=🥶
   cold_sweat=😰 compass=🧭 compression=🗜 computer_mouse=🖱 confounded=😖 confounded_face=😖
   confused=😕 confused_face=😕 construction=🚧 couch_and_lamp=🛋 counterclockwise_arrows_button=🔄
   cowboy_hat_face=🤠 crab=🦀 crayon=🖍 cricket=🦗 croissant=🥐 cry=😢 crying_cat_face=😿
   crying_face=😢 crystal_ball=🔮 cucumber=🥒 cup_with_straw=🥤 cupcake=🧁 curling_stone=🥌
   curly_hair=🦱 customs=🛃 cut_of_meat=🥩 dagger=🗡 dagger_knife=🗡 dark_sunglasses=🕶 deaf_person=🧏
   deer=🦌 delivery_truck=🚚 desktop_computer=🖥 dim_button=🔅 disappointed=😞 disappointed_face=😞
   disappointed_relieved=😥 diving_mask=🤿 diya_lamp=🪔 dizzy_face=😵 dna=🧬 do_not_litter=🚯 door=🚪
   dotted_six-pointed_star=🔯 dove=🕊 dove_of_peace=🕊 downcast_face_with_sweat=😓
   downwards_button=🔽 drooling_face=🤤 drop_of_blood=🩸 drum=🥁 duck=🦆 dumpling=🥟 eagle=🦅
   ear_with_hearing_aid=🦻 eight-thirty=🕣 eight_o’clock=🕗 electric_plug=🔌 eleven-thirty=🕦
   eleven_o’clock=🕚 end=🔚 end_arrow=🔚 exploding_head=🤯 expressionless=😑 expressionless_face=😑
   face_blowing_a_kiss=😘 face_savoring_food=😋 face_screaming_in_fear=😱 face_vomiting=🤮
   face_with_hand_over_mouth=🤭 face_with_head-bandage=🤕 face_with_head__bandage=🤕
   face_with_medical_mask=😷 face_with_monocle=🧐 face_with_open_mouth=😮
   face_with_raised_eyebrow=🤨 face_with_rolling_eyes=🙄 face_with_steam_from_nose=😤
   face_with_symbols_on_mouth=🤬 face_with_tears_of_joy=😂 face_with_thermometer=🤒
   face_with_tongue=😛 face_without_mouth=😶 falafel=🧆 fearful=😨 fearful_face=😨 file_cabinet=🗄
   fire=🔥 fire_engine=🚒 fire_extinguisher=🧯 firecracker=🧨 five-thirty=🕠 five_o’clock=🕔
   flamingo=🦩 flashlight=🔦 flat_shoe=🥿 flushed=😳 flushed_face=😳 flying_disc=🥏 flying_saucer=🛸
   foot=🦶 fortune_cookie=🥠 fountain_pen=🖋 four-thirty=🕟 four_o’clock=🕓 fox_face=🦊
   frame_with_picture=🖼 framed_picture=🖼 frowning=😦 frowning_face_with_open_mouth=😦 garlic=🧄
   genie=🧞 giraffe=🦒 glass_of_milk=🥛 gloves=🧤 goal_net=🥅 goggles=🥽 gorilla=🦍 green_circle=🟢
   green_salad=🥗 green_square=🟩 grimacing=😬 grimacing_face=😬 grin=😁 grinning=😀
   grinning_cat_face=😺 grinning_cat_face_with_smiling_eyes=😸 grinning_face=😀
   grinning_face_with_big_eyes=😃 grinning_face_with_smiling_eyes=😄 grinning_face_with_sweat=😅
   grinning_squinting_face=😆 guide_dog=🦮 gun=🔫 hammer=🔨 hammer_and_wrench=🛠 handshake=🤝
   hear-no-evil_monkey=🙉 hear_no_evil=🙉 heart_eyes=😍 heart_eyes_cat=😻 hedgehog=🦔 helicopter=🚁
   high-speed_train=🚄 high_brightness=🔆 hiking_boot=🥾 hindu_temple=🛕 hippopotamus=🦛 hocho=🔪
   hole=🕳 horizontal_traffic_light=🚥 hot_face=🥵 hugging_face=🤗 hushed=😯 hushed_face=😯 ice=🧊
   innocent=😇 input_latin_letters=🔤 input_latin_lowercase=🔡 input_latin_uppercase=🔠
   input_numbers=🔢 input_symbols=🔣 japan=🗾 japanese_symbol_for_beginner=🔰 jigsaw=🧩 joy=😂
   joy_cat=😹 joystick=🕹 kaaba=🕋 kangaroo=🦘 key=🔑 keycap_10=🔟 kick_scooter=🛴 kissing=😗
   kissing_cat=😽 kissing_cat_face=😽 kissing_closed_eyes=😚 kissing_face=😗
   kissing_face_with_closed_eyes=😚 kissing_face_with_smiling_eyes=😙 kissing_heart=😘
   kissing_smiling_eyes=😙 kitchen_knife=🔪 kite=🪁 kiwi_fruit=🥝 knife=🔪 lab_coat=🥼 lacrosse=🥍
   large_blue_circle=🔵 large_blue_diamond=🔷 large_orange_diamond=🔶 laughing=😆 leafy_green=🥬
   left_luggage=🛅 left_speech_bubble=🗨 leg=🦵 light_rail=🚈 link=🔗 linked_paperclips=🖇
   lion_face=🦁 litter_in_bin_sign=🚮 lizard=🦎 llama=🦙 lobster=🦞 lock=🔒 lock_with_ink_pen=🔏
   locked=🔒 locked_with_key=🔐 locked_with_pen=🔏 locomotive=🚂 lotion_bottle=🧴 loud_sound=🔊
   loudly_crying_face=😭 low_brightness=🔅 lower_left_ballpoint_pen=🖊 lower_left_crayon=🖍
   lower_left_fountain_pen=🖋 lower_left_paintbrush=🖌 luggage=🧳 lying_face=🤥 mag=🔍 mag_right=🔎
   magnet=🧲 magnifying_glass_tilted_left=🔍 magnifying_glass_tilted_right=🔎 man_genie=🧞‍♂️
   man_in_business_suit_levitating=🕴 man_zombie=🧟‍♂️ mango=🥭 mantelpiece_clock=🕰
   manual_wheelchair=🦽 map_of_japan=🗾 martial_arts_uniform=🥋 mask=😷 mate=🧉 mechanical_arm=🦾
   mechanical_leg=🦿 men_wrestling=🤼‍♂️ menorah=🕎 menorah_with_nine_branches=🕎 mens=🚹
   men’s_room=🚹 metro=🚇 microbe=🦠 microscope=🔬 minibus=🚐 moai=🗿 money-mouth_face=🤑
   money__mouth_face=🤑 monorail=🚝 moon_cake=🥮 mosque=🕌 mosquito=🦟 motor_boat=🛥 motor_scooter=🛵
   motorized_wheelchair=🦼 motorway=🛣 mount_fuji=🗻 mountain_bicyclist=🚵 mountain_cableway=🚠
   mountain_railway=🚞 moyai=🗿 mute=🔇 muted_speaker=🔇 nauseated_face=🤢 nazar_amulet=🧿
   nerd_face=🤓 neutral_face=😐 nine-thirty=🕤 nine_o’clock=🕘 no_bell=🔕 no_bicycles=🚳
   no_entry_sign=🚫 no_good=🙅 no_littering=🚯 no_mouth=😶 no_one_under_eighteen=🔞 no_pedestrians=🚷
   no_smoking=🚭 non-potable_water=🚱 non__potable_water=🚱 nut_and_bolt=🔩 oil_drum=🛢 ok_woman=🙆
   old_key=🗝 om=🕉 om_symbol=🕉 on=🔛 on!_arrow=🔛 oncoming_automobile=🚘 oncoming_bus=🚍
   oncoming_police_car=🚔 oncoming_taxi=🚖 one-piece_swimsuit=🩱 one-thirty=🕜 one_o’clock=🕐
   onion=🧅 open_mouth=😮 orange_circle=🟠 orange_heart=🧡 orange_square=🟧 orangutan=🦧 otter=🦦
   owl=🦉 oyster=🦪 paintbrush=🖌 pancakes=🥞 parrot=🦜 partying_face=🥳 passenger_ship=🛳
   passport_control=🛂 peacock=🦚 peanuts=🥜 pen=🖊 pensive=😔 pensive_face=😔
   people_holding_hands=🧑‍🤝‍🧑 people_wrestling=🤼 persevere=😣 persevering_face=😣
   person_fencing=🤺 person_kneeling=🧎 person_standing=🧍 person_with_pouting_face=🙎 petri_dish=🧫
   pie=🥧 pinching_hand=🤏 pistol=🔫 place_of_worship=🛐 pleading_face=🥺 police_car=🚓
   police_car_light=🚨 potable_water=🚰 potato=🥔 pouting_cat=😾 pouting_cat_face=😾 pouting_face=😡
   pray=🙏 pretzel=🥨 printer=🖨 probing_cane=🦯 prohibited=🚫 purple_circle=🟣 purple_square=🟪
   put_litter_in_its_place=🚮 raccoon=🦝 radio_button=🔘 rage=😡 railway_car=🚃 railway_track=🛤
   raised_hand_with_fingers_splayed=🖐 raised_hand_with_part_between_middle_and_ring_fingers=🖖
   raised_hands=🙌 raising_hand=🙋 razor=🪒 receipt=🧾 red_car=🚗 red_circle=🔴 red_envelope=🧧
   red_hair=🦰 red_square=🟥 red_triangle_pointed_down=🔻 red_triangle_pointed_up=🔺 relieved=😌
   relieved_face=😌 repeat=🔁 repeat_button=🔁 repeat_one=🔂 repeat_single_button=🔂 restroom=🚻
   reversed_hand_with_middle_finger_extended=🖕 rhinoceros=🦏 right_anger_bubble=🗯
   ringed_planet=🪐 robot=🤖 robot_face=🤖 rocket=🚀 roll_of_paper=🧻 rolled-up_newspaper=🗞
   rolled__up_newspaper=🗞 rolling_on_the_floor_laughing=🤣 rotating_light=🚨 rowboat=🚣
   sad_but_relieved_face=😥 safety_pin=🧷 safety_vest=🦺 salt=🧂 sandwich=🥪 sari=🥻 satisfied=😆
   sauropod=🦕 scarf=🧣 scorpion=🦂 scream=😱 scream_cat=🙀 see-no-evil_monkey=🙈 see_no_evil=🙈
   seven-thirty=🕢 seven_o’clock=🕖 shallow_pan_of_food=🥘 shark=🦈 shield=🛡 ship=🚢 shopping_bags=🛍
   shopping_cart=🛒 shorts=🩳 shower=🚿 shrimp=🦐 shuffle_tracks_button=🔀 shushing_face=🤫
   six-thirty=🕡 six_o’clock=🕕 six_pointed_star=🔯 skateboard=🛹 skunk=🦨 sled=🛷 sleeping=😴
   sleeping_accommodation=🛌 sleeping_face=😴 sleepy=😪 sleepy_face=😪 sleuth_or_spy=🕵
   slightly_frowning_face=🙁 slightly_smiling_face=🙂 sloth=🦥 small_airplane=🛩
   small_blue_diamond=🔹 small_orange_diamond=🔸 small_red_triangle=🔺 small_red_triangle_down=🔻
   smile=😄 smile_cat=😸 smiley=😃 smiley_cat=😺 smiling_cat_face_with_heart-eyes=😻
   smiling_face_with_3_hearts=🥰 smiling_face_with_halo=😇 smiling_face_with_heart-eyes=😍
   smiling_face_with_horns=😈 smiling_face_with_smiling_eyes=😊 smiling_face_with_sunglasses=😎
   smiling_imp=😈 smirk=😏 smirk_cat=😼 smirking_face=😏 smoking=🚬 sneezing_face=🤧 soap=🧼 sob=😭
   socks=🧦 softball=🥎 soon=🔜 soon_arrow=🔜 sound=🔉 speak-no-evil_monkey=🙊 speak_no_evil=🙊
   speaker=🔈 speaker_high_volume=🔊 speaker_low_volume=🔈 speaker_medium_volume=🔉 speaking_head=🗣
   speaking_head_in_silhouette=🗣 speedboat=🚤 spider=🕷 spider_web=🕸 spiral_calendar=🗓
   spiral_calendar_pad=🗓 spiral_note_pad=🗒 spiral_notepad=🗒 sponge=🧽 spoon=🥄
   sport_utility_vehicle=🚙 squid=🦑 squinting_face_with_tongue=😝 star-struck=🤩 station=🚉
   statue_of_liberty=🗽 steam_locomotive=🚂 stethoscope=🩺 stop_sign=🛑 stuck_out_tongue=😛
   stuck_out_tongue_closed_eyes=😝 stuck_out_tongue_winking_eye=😜 stuffed_flatbread=🥙
   sunglasses=😎 superhero=🦸 supervillain=🦹 suspension_railway=🚟 swan=🦢 sweat=😓 sweat_smile=😅
   symbols=🔣 synagogue=🕍 t-rex=🦖 takeout_box=🥡 taxi=🚕 teddy_bear=🧸 telescope=🔭 ten=🔟
   ten-thirty=🕥 ten_o’clock=🕙 test_tube=🧪 thinking_face=🤔 thread=🧵 three-thirty=🕞
   three_button_mouse=🖱 three_o’clock=🕒 tired_face=😫 toilet=🚽 tokyo_tower=🗼 toolbox=🧰 tooth=🦷
   top=🔝 top_arrow=🔝 trackball=🖲 tractor=🚜 traffic_light=🚥 train=🚋 train2=🚆 tram=🚊 tram_car=🚋
   triangular_flag=🚩 triangular_flag_on_post=🚩 trident=🔱 trident_emblem=🔱 triumph=😤
   trolleybus=🚎 truck=🚚 tumbler_glass=🥃 turkey=🦃 twelve-thirty=🕧 twelve_o’clock=🕛
   twisted_rightwards_arrows=🔀 two-thirty=🕝 two_o’clock=🕑 unamused=😒 unamused_face=😒 underage=🔞
   unicorn_face=🦄 unlock=🔓 unlocked=🔓 upside-down_face=🙃 upside__down_face=🙃 upwards_button=🔼
   vertical_traffic_light=🚦 waffle=🧇 walking=🚶 wastebasket=🗑 water_closet=🚾 wc=🚾 weary=😩
   weary_cat_face=🙀 weary_face=😩 white_hair=🦳 white_heart=🤍 white_square_button=🔳
   wilted_flower=🥀 wink=😉 winking_face=😉 winking_face_with_tongue=😜 woman_genie=🧞‍♀️
   woman_zombie=🧟‍♀️ women_wrestling=🤼‍♀️ womens=🚺 women’s_room=🚺 woozy_face=🥴 world_map=🗺
   worried=😟 worried_face=😟 wrench=🔧 yarn=🧶 yawning_face=🥱 yellow_circle=🟡 yellow_square=🟨
   yo-yo=🪀 yum=😋 zany_face=🤪 zebra=🦓 zipper-mouth_face=🤐 zipper__mouth_face=🤐 zombie=🧟"

end GrammarForm.Console.Emoji
